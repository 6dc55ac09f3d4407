import ValidatorKeys.Proofs.Assignment.Basic
import ValidatorKeys.Proofs.Dialogue.Conduct

/-!
# A pass that is taken up again

The bindings of an insertion pass may be cut anywhere.  A second pass over the rest of them, started
from the tokens that the first one consumed, does what the whole pass would have done from there on:
it issues the same commands, gets the same answers, and fails where the whole pass fails.

    assign … (bs₁ ++ bs₂) c      = assign … bs₁ c ++ assign … bs₂ (c and the tokens of the first)
    insertLines … (bs₁ ++ bs₂) c = insertLines … bs₁ c, then insertLines … bs₂ from what it left
-/

namespace ValidatorKeys

def InsertReport.followedBy (a b : InsertReport) : InsertReport :=
  ⟨a.inserted ++ b.inserted, a.skipped ++ b.skipped⟩

/-! ## Lemmas -/

namespace Assignment

theorem tokens_append (as bs : List Assignment) : tokens (as ++ bs) = tokens as ++ tokens bs :=
  List.filterMap_append

theorem report_append (as bs : List Assignment) :
    report (as ++ bs) = (report as).followedBy (report bs) := by
  unfold report InsertReport.followedBy
  rw [List.filterMap_append, List.filterMap_append]

end Assignment

theorem Consumed.insertAll_append (c : Consumed) (ts us : List Token) :
    c.insertAll (ts ++ us) = (c.insertAll ts).insertAll us :=
  List.foldl_append

/-- **The choice for the rest of the bindings** starts from the tokens chosen for the first ones. -/
theorem assign_append (policy : ConflictPolicy) (lines : List (List Char))
    (bs₁ bs₂ : List Binding) (c : Consumed) :
    assign policy lines (bs₁ ++ bs₂) c = assign policy lines bs₁ c ++
      assign policy lines bs₂ (c.insertAll (Assignment.tokens (assign policy lines bs₁ c))) := by
  induction bs₁ generalizing c with
  | nil => rfl
  | cons b rest ih =>
    rw [List.cons_append, assign, assign]
    cases selectToken lines b.scheme c policy with
    | none => exact congrArg (_ :: ·) (ih c)
    | some t => exact congrArg (_ :: ·) (ih (c.insert t))

/-- The commands of assignments are issued one after the other, also across a cut. -/
theorem insertAssigned_append {σ : Type} (r : Runner σ) (node payload : String)
    (as bs : List Assignment) :
    insertAssigned r node payload (as ++ bs) = (do
      insertAssigned r node payload as
      insertAssigned r node payload bs) := by
  induction as with
  | nil => exact (pure_bind _ _).symm
  | cons a rest ih =>
    obtain ⟨b, t?⟩ := a
    cases t? with
    | none => simp only [List.cons_append, insertAssigned, ih, bind_assoc]
    | some t => simp only [List.cons_append, insertAssigned, ih, bind_assoc]

theorem insertKeys_append {σ : Type} (r : Runner σ) (node payload : String)
    (policy : ConflictPolicy) (lines : List (List Char)) (bs₁ bs₂ : List Binding) (c : Consumed) :
    insertKeys r node payload policy lines (bs₁ ++ bs₂) c = (do
      let x ← insertKeys r node payload policy lines bs₁ c
      let y ← insertKeys r node payload policy lines bs₂ x.2
      pure (x.1.followedBy y.1, y.2)) := by
  simp only [insertKeys_eq, assign_append, insertAssigned_append, bind_assoc, pure_bind,
    Assignment.report_append, Assignment.tokens_append, Consumed.insertAll_append]

/-! ## Top theorem -/

/-- **Insertion composes over the bindings**, whatever the runner answers and does.  The whole pass
and the two parts end in one session, with the same files, calls, notices and answers left; if a
part fails, that is the failure of the whole, and nothing is issued after it. -/
theorem insertLines_append {σ : Type} (r : Runner σ) (node : String) (policy : ConflictPolicy)
    (password : Password) (lines : List (List Char)) (bs₁ bs₂ : List Binding) (c : Consumed)
    (s : Session σ) :
    insertLines r node policy password lines (bs₁ ++ bs₂) c s =
      match insertLines r node policy password lines bs₁ c s with
      | (.error e, s₁) => (.error e, s₁)
      | (.ok (first, c₁), s₁) =>
        match insertLines r node policy password lines bs₂ c₁ s₁ with
        | (.error e, s₂) => (.error e, s₂)
        | (.ok (second, c₂), s₂) => (.ok (first.followedBy second, c₂), s₂) := by
  unfold insertLines
  rw [insertKeys_append, Run.bind_apply]
  rcases insertKeys r node password.payload policy lines bs₁ c s with ⟨x, s₁⟩
  cases x with
  | error e => rfl
  | ok first =>
    simp only
    rw [Run.bind_apply]
    rcases insertKeys r node password.payload policy lines bs₂ first.2 s₁ with ⟨y, s₂⟩
    cases y <;> rfl

end ValidatorKeys
