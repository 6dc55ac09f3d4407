import ValidatorKeys.Provision.Insertion

/-!
# Which token goes to which binding

An insertion pass chooses tokens and issues commands.  What it chooses depends on the lines, the
bindings and the tokens consumed before, and never on what a command answers: `assign` is the
choice alone, and `insertAssigned` issues the commands for a choice already made.

    insertKeys r … bs c = insertAssigned r … (assign policy lines bs c), then its report
    tokens (assign policy lines bs c) = distinct tokens, none of them in c
-/

namespace ValidatorKeys

/-! ## Algorithm -/

def InsertedKey.binding (k : InsertedKey) : Binding := ⟨k.scheme, k.keyType⟩

/-- A binding with the token that it receives, if any. -/
structure Assignment where
  binding : Binding
  token : Option Token
  deriving DecidableEq

namespace Assignment

/-- The entry of the report for a binding that receives a token. -/
def insertedKey? (a : Assignment) : Option InsertedKey :=
  a.token.map fun t => ⟨a.binding.scheme, a.binding.keyType, t.fingerprint⟩

def skipped? (a : Assignment) : Option Binding :=
  match a.token with
  | some _ => none
  | none => some a.binding

/-- The call that inserts the key of a binding that receives a token. -/
def call? (node payload : String) (a : Assignment) : Option Call :=
  a.token.map fun _ => ⟨insertCommand node a.binding, some payload⟩

/-- The tokens that are received, in binding order. -/
def tokens (as : List Assignment) : List Token := as.filterMap Assignment.token

/-- The calls that insert the keys, in binding order. -/
def calls (node payload : String) (as : List Assignment) : List Call :=
  as.filterMap (Assignment.call? node payload)

def report (as : List Assignment) : InsertReport :=
  ⟨as.filterMap insertedKey?, as.filterMap skipped?⟩

end Assignment

/-- The tokens handed out after more of them were, one after the other. -/
def Consumed.insertAll (c : Consumed) (ts : List Token) : Consumed := ts.foldl Consumed.insert c

/-- The token that each binding receives, the bindings in order and each token at most once. -/
def assign (policy : ConflictPolicy) (lines : List (List Char)) :
    List Binding → Consumed → List Assignment
  | [], _ => []
  | b :: rest, c =>
    match selectToken lines b.scheme c policy with
    | none => ⟨b, none⟩ :: assign policy lines rest c
    | some t => ⟨b, some t⟩ :: assign policy lines rest (c.insert t)

/-- Issues the commands for assignments already made. -/
def insertAssigned {σ : Type} (r : Runner σ) (node payload : String) :
    List Assignment → Run σ PassError Unit
  | [] => pure ()
  | ⟨b, none⟩ :: rest => do
    Run.note (.keyMissing b)
    insertAssigned r node payload rest
  | ⟨b, some t⟩ :: rest => do
    Run.note (.keyInserting b t.fingerprint)
    let _ ← Run.command r (insertCommand node b) payload
    insertAssigned r node payload rest

/-! ## Lemmas -/

theorem some_mem_candidates_iff (lines : List (List Char)) (s : Scheme) (t : Token) :
    some t ∈ candidates lines s ↔
      ∃ line ∈ lines, s.label <+: line ∧ Token.extract line = some t := by
  simp [candidates, and_assoc]

/-- What is selected stands in a line of the scheme and was not handed out before. -/
theorem mem_of_selectToken (lines : List (List Char)) (s : Scheme) (c : Consumed)
    (policy : ConflictPolicy) (t : Token) (h : selectToken lines s c policy = some t) :
    some t ∈ candidates lines s ∧ t ∉ c.tokens := by
  have key : ∀ t? ∈ candidates lines s,
      (t?.filter fun u => !c.contains u) = some t → some t ∈ candidates lines s ∧ t ∉ c.tokens := by
    intro t? hm hf
    rw [Option.filter_eq_some_iff] at hf
    obtain ⟨rfl, hc⟩ := hf
    exact ⟨hm, by simpa [Consumed.contains] using hc⟩
  cases policy with
  | advance =>
    obtain ⟨t?, hm, hf⟩ := List.exists_of_findSome?_eq_some h
    exact key t? hm hf
  | firstMatchOnly =>
    obtain ⟨t?, hm, hf⟩ := Option.bind_eq_some_iff.mp h
    exact key t? (List.mem_of_head? hm) hf

theorem map_binding_assign (policy : ConflictPolicy) (lines : List (List Char))
    (bs : List Binding) (c : Consumed) :
    (assign policy lines bs c).map Assignment.binding = bs := by
  induction bs generalizing c with
  | nil => rfl
  | cons b rest ih =>
    rw [assign]
    split <;> simp [ih]

/-- Each token that is received stands in a line of the scheme of its binding. -/
theorem some_mem_candidates_of_mem_assign (policy : ConflictPolicy) (lines : List (List Char))
    (bs : List Binding) (c : Consumed) (b : Binding) (t : Token)
    (h : ⟨b, some t⟩ ∈ assign policy lines bs c) : some t ∈ candidates lines b.scheme := by
  induction bs generalizing c with
  | nil => simp [assign] at h
  | cons b' rest ih =>
    rw [assign] at h
    split at h
    · rcases List.mem_cons.mp h with h | h
      · simp at h
      · exact ih c h
    · next u hu =>
      rcases List.mem_cons.mp h with h | h
      · simp only [Assignment.mk.injEq, Option.some.injEq] at h
        obtain ⟨rfl, rfl⟩ := h
        exact (mem_of_selectToken _ _ _ _ _ hu).1
      · exact ih _ h

/-- **No token is received twice**, and none that was handed out before. -/
theorem tokens_assign_fresh (policy : ConflictPolicy) (lines : List (List Char))
    (bs : List Binding) (c : Consumed) :
    (Assignment.tokens (assign policy lines bs c)).Nodup ∧
      ∀ t ∈ Assignment.tokens (assign policy lines bs c), t ∉ c.tokens := by
  induction bs generalizing c with
  | nil => simp [assign, Assignment.tokens]
  | cons b rest ih =>
    rw [assign]
    split
    · exact ih c
    · next u hu =>
      obtain ⟨hnd, hfresh⟩ := ih (c.insert u)
      have hrest : ∀ t ∈ Assignment.tokens (assign policy lines rest (c.insert u)),
          t ∉ c.tokens ∧ t ≠ u := by
        intro t ht
        have := hfresh t ht
        rw [Consumed.mem_tokens_insert] at this
        exact not_or.mp this
      have hu' := (mem_of_selectToken _ _ _ _ _ hu).2
      refine ⟨List.nodup_cons.mpr ⟨fun hm => (hrest u hm).2 rfl, hnd⟩, fun t ht => ?_⟩
      rcases List.mem_cons.mp ht with rfl | ht
      · exact hu'
      · exact (hrest t ht).1

/-- Tokens that are new and distinct are added at the end, in order. -/
theorem Consumed.tokens_insertAll (c : Consumed) (ts : List Token) (hnd : ts.Nodup)
    (hfresh : ∀ t ∈ ts, t ∉ c.tokens) : (c.insertAll ts).tokens = c.tokens ++ ts := by
  induction ts generalizing c with
  | nil => simp [insertAll]
  | cons t ts ih =>
    obtain ⟨ht, hnd⟩ := List.nodup_cons.mp hnd
    have hc := tokens_insert_of_not_mem c t (hfresh t List.mem_cons_self)
    have h := ih (c.insert t) hnd fun u hu => by
      rw [hc, List.mem_append, List.mem_singleton]
      rintro (hm | rfl)
      · exact hfresh u (List.mem_cons_of_mem _ hu) hm
      · exact ht hu
    rw [insertAll, List.foldl_cons, ← insertAll, h, hc, List.append_assoc, List.singleton_append]

theorem tokens_insertAll_assign (policy : ConflictPolicy) (lines : List (List Char))
    (bs : List Binding) (c : Consumed) :
    (c.insertAll (Assignment.tokens (assign policy lines bs c))).tokens =
      c.tokens ++ Assignment.tokens (assign policy lines bs c) := by
  obtain ⟨hnd, hfresh⟩ := tokens_assign_fresh policy lines bs c
  exact Consumed.tokens_insertAll c _ hnd hfresh

theorem Assignment.map_binding_inserted (as : List Assignment) :
    (Assignment.report as).inserted.map InsertedKey.binding =
      (as.filter fun a => a.token.isSome).map Assignment.binding := by
  induction as with
  | nil => rfl
  | cons a as ih =>
    obtain ⟨b, t?⟩ := a
    cases t? with
    | none => exact ih
    | some t => exact congrArg (b :: ·) ih

theorem Assignment.skipped_eq (as : List Assignment) :
    (Assignment.report as).skipped =
      (as.filter fun a => a.token.isNone).map Assignment.binding := by
  induction as with
  | nil => rfl
  | cons a as ih =>
    obtain ⟨b, t?⟩ := a
    cases t? with
    | none => exact congrArg (b :: ·) ih
    | some t => exact ih

theorem Assignment.map_fingerprint_inserted (as : List Assignment) :
    (Assignment.report as).inserted.map InsertedKey.fingerprint =
      (Assignment.tokens as).map Token.fingerprint := by
  induction as with
  | nil => rfl
  | cons a as ih =>
    obtain ⟨b, t?⟩ := a
    cases t? with
    | none => exact ih
    | some t => exact congrArg (t.fingerprint :: ·) ih

theorem Assignment.calls_eq (node payload : String) (as : List Assignment) :
    Assignment.calls node payload as =
      (Assignment.report as).inserted.map fun k =>
        ⟨insertCommand node k.binding, some payload⟩ := by
  induction as with
  | nil => rfl
  | cons a as ih =>
    obtain ⟨b, t?⟩ := a
    cases t? with
    | none => exact ih
    | some t => exact congrArg (⟨insertCommand node b, some payload⟩ :: ·) ih

theorem Assignment.length_inserted (as : List Assignment) :
    (Assignment.report as).inserted.length = (Assignment.tokens as).length := by
  rw [← List.length_map InsertedKey.fingerprint, map_fingerprint_inserted, List.length_map]

/-- **Choice and commands come apart**, whatever the runner does. -/
theorem insertKeys_eq {σ : Type} (r : Runner σ) (node payload : String) (policy : ConflictPolicy)
    (lines : List (List Char)) (bs : List Binding) (c : Consumed) :
    insertKeys r node payload policy lines bs c = (do
      insertAssigned r node payload (assign policy lines bs c)
      pure (Assignment.report (assign policy lines bs c),
        c.insertAll (Assignment.tokens (assign policy lines bs c)))) := by
  induction bs generalizing c with
  | nil => rfl
  | cons b rest ih =>
    cases h : selectToken lines b.scheme c policy with
    | none =>
      simp only [insertKeys, assign, h, ih, insertAssigned, bind_assoc, pure_bind]
      rfl
    | some t =>
      simp only [insertKeys, assign, h, ih, insertAssigned, bind_assoc, pure_bind]
      rfl

end ValidatorKeys
