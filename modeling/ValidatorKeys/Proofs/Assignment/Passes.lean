import ValidatorKeys.Proofs.Assignment.Commands

/-!
# Passes in a row

Insertion passes may follow each other, each starting from the tokens that the one before left as
consumed.  Over such a row no token is handed out twice, and each pass accounts for every binding:
it is in the report either with a key or as skipped, and each key stands for one command.
-/

namespace ValidatorKeys

/-! ## Algorithm -/

/-- What one insertion pass is asked to do. -/
structure InsertionRequest where
  node : String
  policy : ConflictPolicy
  password : Password
  lines : List (List Char)
  bindings : List Binding

/-- The assignments of a pass that starts from these tokens. -/
def InsertionRequest.assignments (q : InsertionRequest) (c : Consumed) : List Assignment :=
  assign q.policy q.lines q.bindings c

/-- Insertion passes in a row, with the report of each and the tokens consumed after it. -/
def insertPasses {σ : Type} (r : Runner σ) :
    List InsertionRequest → Consumed → Run σ PassError (List (InsertReport × Consumed))
  | [], _ => pure []
  | q :: rest, c => do
    let outcome ← insertLines r q.node q.policy q.password q.lines q.bindings c
    let outcomes ← insertPasses r rest outcome.2
    pure (outcome :: outcomes)

/-- The tokens chosen over all passes, each pass starting from what the one before left. -/
def chosenTokens :
    Consumed → List InsertionRequest → List (InsertReport × Consumed) → List Token
  | c, q :: qs, o :: os => Assignment.tokens (q.assignments c) ++ chosenTokens o.2 qs os
  | _, _, _ => []

def InsertionRequest.calls (q : InsertionRequest) (report : InsertReport) : List Call :=
  report.inserted.map fun k => ⟨insertCommand q.node k.binding, some q.password.payload⟩

/-! ## What a pass accounts for -/

/-- A pass that accounts for every binding and every token. -/
structure PassAccount (q : InsertionRequest) (before : Consumed) (report : InsertReport)
    (after : Consumed) : Prop where
  /-- The tokens chosen are added to those consumed before, in binding order. -/
  consumed : after.tokens = before.tokens ++ Assignment.tokens (q.assignments before)
  /-- Every binding is considered once, in order. -/
  bindings : (q.assignments before).map Assignment.binding = q.bindings
  /-- A chosen token stands in a line of the scheme of its binding. -/
  labelled : ∀ a ∈ q.assignments before, ∀ t, a.token = some t →
    ∃ line ∈ q.lines, a.binding.scheme.label <+: line ∧ Token.extract line = some t
  /-- The bindings with a token are inserted and the others skipped, both in order. -/
  inserted : report.inserted.map InsertedKey.binding =
    ((q.assignments before).filter fun a => a.token.isSome).map Assignment.binding
  skipped : report.skipped =
    ((q.assignments before).filter fun a => a.token.isNone).map Assignment.binding
  /-- The keys are reported by the fingerprints of the chosen tokens. -/
  fingerprints : report.inserted.map InsertedKey.fingerprint =
    (Assignment.tokens (q.assignments before)).map Token.fingerprint

/-- Passes in a row that each account for every binding and every token. -/
inductive PassAccounts :
    Consumed → List InsertionRequest → List (InsertReport × Consumed) → Prop where
  | nil (c : Consumed) : PassAccounts c [] []
  | cons {q : InsertionRequest} {before after : Consumed} {report : InsertReport}
      {qs : List InsertionRequest} {os : List (InsertReport × Consumed)} :
      PassAccount q before report after → PassAccounts after qs os →
      PassAccounts before (q :: qs) ((report, after) :: os)

/-! ## Lemmas -/

/-- A pass that reports its assignments accounts for them. -/
theorem passAccount_report (q : InsertionRequest) (c : Consumed) :
    PassAccount q c (Assignment.report (q.assignments c))
      (c.insertAll (Assignment.tokens (q.assignments c))) where
  consumed := tokens_insertAll_assign q.policy q.lines q.bindings c
  bindings := map_binding_assign q.policy q.lines q.bindings c
  labelled := by
    rintro ⟨b, _⟩ ha t rfl
    rw [← some_mem_candidates_iff]
    exact some_mem_candidates_of_mem_assign q.policy q.lines q.bindings c b t ha
  inserted := Assignment.map_binding_inserted _
  skipped := Assignment.skipped_eq _
  fingerprints := Assignment.map_fingerprint_inserted _

/-- Over passes that account for their tokens, no token is chosen twice or chosen again. -/
theorem chosenTokens_fresh {c : Consumed} {qs : List InsertionRequest}
    {os : List (InsertReport × Consumed)} (h : PassAccounts c qs os) :
    (chosenTokens c qs os).Nodup ∧ ∀ t ∈ chosenTokens c qs os, t ∉ c.tokens := by
  induction h with
  | nil => exact ⟨List.nodup_nil, by simp [chosenTokens]⟩
  | @cons q before after report qs os hpass _ ih =>
    obtain ⟨hnd, hfresh⟩ := tokens_assign_fresh q.policy q.lines q.bindings before
    obtain ⟨ihnd, ihfresh⟩ := ih
    -- what is chosen later is outside the set after this pass, which holds both parts
    have hlater : ∀ t ∈ chosenTokens after qs os,
        t ∉ before.tokens ∧ t ∉ Assignment.tokens (q.assignments before) := by
      intro t ht
      have := ihfresh t ht
      rwa [hpass.consumed, List.mem_append, not_or] at this
    refine ⟨List.nodup_append.mpr ⟨hnd, ihnd, ?_⟩, fun t ht => ?_⟩
    · rintro t ht _ ht' rfl
      exact (hlater t ht').2 ht
    rcases List.mem_append.mp ht with ht | ht
    · exact hfresh t ht
    · exact (hlater t ht).1

/-! ## Top theorem -/

/-- **No token is inserted twice and every binding is accounted for**, over any passes in a row
whose commands succeed. -/
theorem insertPasses_account {σ : Type} (r : Runner σ) (hr : r.AlwaysAnswers)
    (qs : List InsertionRequest) (c : Consumed) (s : Session σ) :
    ∃ outcomes s', insertPasses r qs c s = (.ok outcomes, s') ∧
      (chosenTokens c qs outcomes).Nodup ∧ (∀ t ∈ chosenTokens c qs outcomes, t ∉ c.tokens) ∧
      PassAccounts c qs outcomes ∧
      s'.calls = s.calls ++ (qs.zip outcomes).flatMap fun x => x.1.calls x.2.1 := by
  have main : ∃ outcomes s', insertPasses r qs c s = (.ok outcomes, s') ∧
      PassAccounts c qs outcomes ∧
      s'.calls = s.calls ++ (qs.zip outcomes).flatMap fun x => x.1.calls x.2.1 := by
    induction qs generalizing c s with
    | nil => exact ⟨[], s, rfl, .nil c, (List.append_nil _).symm⟩
    | cons q qs ih =>
      obtain ⟨s₁, h₁, hc₁⟩ := insertLines_of_alwaysAnswers r hr q.node q.policy q.password
        q.lines q.bindings c s
      obtain ⟨os, s₂, h₂, hacc, hc₂⟩ :=
        ih (c.insertAll (Assignment.tokens (q.assignments c))) s₁
      refine ⟨(Assignment.report (q.assignments c), _) :: os, s₂, ?_,
        .cons (passAccount_report q c) hacc, ?_⟩
      · rw [insertPasses]
        exact (Run.bind_ok h₁).trans (Run.bind_ok h₂)
      · rw [hc₂, hc₁, Assignment.calls_eq, List.append_assoc]
        rfl
  obtain ⟨os, s', h, hacc, hc⟩ := main
  obtain ⟨hnd, hfresh⟩ := chosenTokens_fresh hacc
  exact ⟨os, s', h, hnd, hfresh, hacc, hc⟩

/-- A token in lines of two schemes, a repeated line, both policies, and a token consumed before. -/
theorem insertPasses_account_two_passes :
    let lines := ["sr25519: Secret seed: 0xa".toList, "ed25519: Secret seed: 0xa".toList,
      "sr25519: Secret seed: 0xb".toList, "sr25519: Secret seed: 0xb".toList]
    let q : InsertionRequest := ⟨"node", .advance, ⟨"pw", by decide⟩, lines, defaultBindings⟩
    let qs := [q, { q with policy := .firstMatchOnly }]
    let c : Consumed := ⟨[⟨"0xb".toList, by decide⟩]⟩
    Runner.silent.AlwaysAnswers ∧ ∃ outcomes s',
      insertPasses Runner.silent qs c { files := {}, state := () } = (.ok outcomes, s') ∧
      (chosenTokens c qs outcomes).Nodup ∧ (∀ t ∈ chosenTokens c qs outcomes, t ∉ c.tokens) ∧
      PassAccounts c qs outcomes ∧
      s'.calls = (qs.zip outcomes).flatMap fun x => x.1.calls x.2.1 := by
  intro lines q qs c
  exact ⟨Runner.silent_alwaysAnswers, insertPasses_account Runner.silent
    Runner.silent_alwaysAnswers qs c { files := {}, state := () }⟩

end ValidatorKeys
