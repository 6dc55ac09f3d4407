import Mathlib.Data.List.Forall2
import ValidatorKeys.Proofs.Assignment.Basic
import ValidatorKeys.Proofs.KeyFile.Programs
import ValidatorKeys.Proofs.SideBySide.Basic
import ValidatorKeys.Provision.Provisioner

/-!
# Passes side by side

A pass does four things with its session: it reads the files, it writes the key file, it leaves
notices, and it issues key commands with the payload on standard input.  A relation that is kept
when two runs do these things together, each with a payload of its own, is a `Session.Bond`.  Over a
bond, passes with the two payloads go alike.

    Bond S  →  generation passes are alike, insertion passes of corresponding assignments are alike

The simplest bond is `Session.Agrees`: two sessions that differ in their notices at most.
-/

namespace ValidatorKeys

/-! ## Definitions -/

/-- A command about keys, before the node and the password are known. -/
inductive KeyRequest where
  | generate (scheme : Scheme)
  | insert (binding : Binding)

namespace KeyRequest

def command (node : String) : KeyRequest → Command
  | .generate s => generateCommand node s
  | .insert b => insertCommand node b

def call (node payload : String) (q : KeyRequest) : Call := ⟨q.command node, some payload⟩

end KeyRequest

/-- What two runs have to keep between their sessions to go through passes together, the first with
`payload` and the second with `payload'`; `N` says which notices they may leave at the same time. -/
structure Session.Bond {σ : Type} (r : Runner σ) (node payload payload' : String)
    (N : Notice → Notice → Prop) (S : Session σ → Session σ → Prop) : Prop where
  told : ∀ n, N n n
  files_eq : ∀ s s', S s s' → s.files = s'.files
  note : ∀ s s' n n', N n n' → S s s' →
    S { s with notices := s.notices ++ [n] } { s' with notices := s'.notices ++ [n'] }
  write : ∀ s s' t, s.files.KeepsPrograms t → S s s' →
    S { s with files := t } { s' with files := t }
  issue : ∀ q : KeyRequest, Run.Alike S Eq (Run.issue r (q.command node) (some payload))
    (Run.issue r (q.command node) (some payload'))

/-- Sessions that differ in their notices at most, with files of which `T` holds. -/
structure Session.Agrees {σ : Type} (T : FileTree → Prop) (s s' : Session σ) : Prop where
  files : s.files = s'.files
  state : s.state = s'.state
  calls : s.calls = s'.calls
  holds : T s.files

/-- Assignments to one binding, of corresponding tokens or of none. -/
structure Assignment.Corresponds (C : Token → Token → Prop) (a a' : Assignment) : Prop where
  binding : a.binding = a'.binding
  token : Option.Rel C a.token a'.token

/-! ## The steps of a pass -/

section

variable {σ : Type} {r : Runner σ} {node payload payload' : String} {N : Notice → Notice → Prop}
  {S : Session σ → Session σ → Prop} (hB : Session.Bond r node payload payload' N S)

include hB

namespace Session.Bond

theorem alike_note {ε : Type} {n n' : Notice} (h : N n n') :
    Run.Alike S Eq (Run.note n : Run σ ε Unit) (Run.note n') :=
  fun s s' hs => ⟨.ok rfl, hB.note s s' n n' h hs⟩

theorem alike_onFiles {ε α : Type} (f : FileTree → Except ε α) :
    Run.Alike S Eq (Run.onFiles f) (Run.onFiles f) := by
  intro s s' hs
  unfold Run.onFiles
  rw [hB.files_eq s s' hs]
  cases f s'.files with
  | ok a => exact ⟨.ok rfl, hs⟩
  | error e => exact ⟨.error e, hs⟩

theorem alike_changeFiles {α : Type} {f : FileTree → Except KeyFileError (α × FileTree)}
    (hf : ∀ t a t', f t = .ok (a, t') → t.KeepsPrograms t') :
    Run.Alike S Eq (Run.changeFiles f) (Run.changeFiles f) := by
  intro s s' hs
  unfold Run.changeFiles
  rw [← hB.files_eq s s' hs]
  cases h : f s.files with
  | ok x =>
    obtain ⟨a, t⟩ := x
    exact ⟨.ok rfl, hB.write s s' t (hf _ _ _ h) hs⟩
  | error e => exact ⟨.error _, hs⟩

theorem alike_command (q : KeyRequest) :
    Run.Alike S Eq (Run.command r (q.command node) payload)
      (Run.command r (q.command node) payload') :=
  (hB.issue q).mapError PassError.run

/-! ## Generation -/

theorem alike_generateKeys (w : KeyWriter) (schemes : List Scheme) :
    Run.Alike S Eq (generateKeys r node payload w schemes)
      (generateKeys r node payload' w schemes) := by
  induction schemes generalizing w with
  | nil => exact Run.alike_pure rfl
  | cons sch rest ih =>
    refine (hB.alike_command (.generate sch)).bind_same fun output => ?_
    cases SeedLine.find output.toList with
    | some line =>
      refine (hB.alike_changeFiles ?_).bind_same fun w' => ?_
      · intro t a t' h
        exact KeyFile.append_keepsPrograms h
      refine (hB.alike_note (hB.told _)).bind_same fun _ => ?_
      exact (ih w').bind_same fun x => Run.alike_pure rfl
    | none =>
      refine (hB.alike_note (hB.told _)).bind_same fun _ => ?_
      exact (ih w).bind_same fun x => Run.alike_pure rfl

/-- **Generation passes are alike**, also where they fail. -/
theorem alike_generationPass {w w' : Password} (hw : w.payload = payload)
    (hw' : w'.payload = payload') (cwd path : String) (schemes : List Scheme) :
    Run.Alike S Eq (generationPass r cwd node w path schemes)
      (generationPass r cwd node w' path schemes) := by
  subst hw hw'
  refine (hB.alike_changeFiles ?_).bind_same fun writer => ?_
  · intro t a t' h
    exact KeyFile.create_keepsPrograms h
  refine (hB.alike_generateKeys writer schemes).bind_same fun x => ?_
  exact (hB.alike_note (hB.told _)).bind_same fun _ => Run.alike_pure rfl

/-! ## Insertion -/

/-- The commands of corresponding assignments are the same. -/
theorem alike_insertAssigned {C : Token → Token → Prop}
    (hC : ∀ b t u, C t u → N (.keyInserting b t.fingerprint) (.keyInserting b u.fingerprint))
    {as as' : List Assignment} (h : List.Forall₂ (Assignment.Corresponds C) as as') :
    Run.Alike S Eq (insertAssigned r node payload as) (insertAssigned r node payload' as') := by
  induction h with
  | nil => exact Run.alike_pure rfl
  | @cons a a' _ _ ha _ ih =>
    obtain ⟨b, t?⟩ := a
    obtain ⟨b', u?⟩ := a'
    obtain ⟨rfl, htoken⟩ := ha
    cases htoken with
    | none => exact (hB.alike_note (hB.told _)).bind_same fun _ => ih
    | some htu =>
      refine (hB.alike_note (hC b _ _ htu)).bind_same fun _ => ?_
      exact (hB.alike_command (.insert b)).bind_same fun _ => ih

theorem alike_insertKeys (policy : ConflictPolicy) (lines : List (List Char))
    (bindings : List Binding) (c : Consumed) :
    Run.Alike S Eq (insertKeys r node payload policy lines bindings c)
      (insertKeys r node payload' policy lines bindings c) := by
  rw [insertKeys_eq, insertKeys_eq]
  have hself : ∀ as : List Assignment, List.Forall₂ (Assignment.Corresponds Eq) as as := by
    intro as
    refine List.forall₂_same.mpr fun a _ => ⟨rfl, ?_⟩
    cases a.token with
    | none => exact .none
    | some t => exact .some rfl
  refine (hB.alike_insertAssigned ?_ (hself _)).bind_same fun _ => Run.alike_pure rfl
  rintro b t _ rfl
  exact hB.told _

/-- **Insertion passes from one key file are alike**, also where they fail. -/
theorem alike_insertionPass {w w' : Password} (hw : w.payload = payload)
    (hw' : w'.payload = payload') (cwd path : String) (policy : ConflictPolicy)
    (bindings : List Binding) :
    Run.Alike S Eq (insertionPass r cwd node policy w path bindings)
      (insertionPass r cwd node policy w' path bindings) := by
  subst hw hw'
  refine ((hB.alike_onFiles _).mapError _).bind_same fun lines => ?_
  refine (hB.alike_insertKeys policy lines bindings {}).bind_same fun x => ?_
  exact (hB.alike_note (hB.told _)).bind_same fun _ => Run.alike_pure rfl

end Session.Bond

end

/-- Two runs that do the same, with the same payload, stay in sessions that differ in their notices
at most. -/
theorem Session.Agrees.bond {σ : Type} {T : FileTree → Prop} {r : Runner σ}
    (hwrite : ∀ t t', t.KeepsPrograms t' → T t → T t')
    (hrun : ∀ c i t st, T t → T (r.run c i t st).files) (node payload : String) :
    Session.Bond r node payload payload (fun _ _ => True) (Session.Agrees T) where
  told _ := trivial
  files_eq _ _ h := h.files
  note _ _ _ _ _ h := ⟨h.files, h.state, h.calls, h.holds⟩
  write _ _ t ht h := ⟨rfl, h.state, h.calls, hwrite _ t ht h.holds⟩
  issue q := by
    intro s s' h
    obtain ⟨files, state, calls, notices⟩ := s
    obtain ⟨files', state', calls', notices'⟩ := s'
    obtain ⟨rfl, rfl, rfl, hT⟩ := h
    exact ⟨Run.matching_eq_iff.mpr rfl, rfl, rfl, rfl, hrun _ _ _ _ hT⟩

/-! ## Rounds -/

/-- A round that is counted later by `k`. -/
def RoundReport.later (k : Nat) (x : RoundReport) : RoundReport := { x with round := x.round + k }

theorem RoundReport.later_zero : RoundReport.later 0 = id := rfl

namespace Provisioner

variable {σ : Type} {p : Provisioner} {r : Runner σ} {w w' : Password}
  {N : Notice → Notice → Prop} {S : Session σ → Session σ → Prop}

theorem alike_generate (hB : Session.Bond r p.node w.payload w'.payload N S) :
    Run.Alike S Eq (p.generate r w) (p.generate r w') := by
  refine (hB.alike_note (hB.told _)).bind_same fun _ => ?_
  exact (hB.alike_generationPass rfl rfl _ _ _).mapError _

theorem alike_insert (hB : Session.Bond r p.node w.payload w'.payload N S) :
    Run.Alike S Eq (p.insert r w) (p.insert r w') := by
  refine (hB.alike_note (hB.told _)).bind_same fun _ => ?_
  exact (hB.alike_insertionPass rfl rfl _ _ _ _).mapError _

/-- **Rounds are alike when their passes are**; the first run may count them from a later number
on. -/
theorem alike_runRounds (p p' : Provisioner)
    (hB : Session.Bond r p.node w.payload w'.payload N S)
    (hgenerate : Run.Alike S Eq (p.generate r w) (p'.generate r w'))
    (hinsert : Run.Alike S Eq (p.insert r w) (p'.insert r w')) {k : Nat}
    (hnote : ∀ i, N (.roundStarted (i + k) p.config.keys.rounds)
      (.roundStarted i p'.config.keys.rounds)) (first left : Nat) :
    Run.Alike S (fun rounds rounds' => rounds = rounds'.map (RoundReport.later k))
      (p.runRounds r w (first + k) left) (p'.runRounds r w' first left) := by
  induction left generalizing first with
  | zero => exact Run.alike_pure rfl
  | succ left ih =>
    refine (hB.alike_note (hnote first)).bind_same fun _ => ?_
    refine hgenerate.bind_same fun g => hinsert.bind_same fun i => ?_
    rw [Nat.add_right_comm]
    refine (ih (first + 1)).bind fun rest rest' hrest => Run.alike_pure ?_
    rw [List.map_cons, hrest]
    rfl

end Provisioner

end ValidatorKeys
