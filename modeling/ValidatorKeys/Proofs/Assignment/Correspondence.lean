import ValidatorKeys.Proofs.Assignment.Commands
import ValidatorKeys.Proofs.SideBySide.Passes

/-!
# Secrets and what is executed

Tokens steer an insertion pass only through their being equal or not.  So where the tokens of the
lines, and those consumed before, are exchanged for others one to one, the pass issues the same
commands with the same input, inserts and skips the same bindings, and ends the same way; its tokens
are exchanged likewise, and the report differs in fingerprints at most.

    lines and consumed tokens correspond  →  assignments correspond
    assignments correspond  →  the same calls, and one outcome or two that correspond
-/

namespace ValidatorKeys

open Relator (BiUnique)

/-! ## Definitions -/

/-- Lines with the same labels, whose tokens correspond or which have none. -/
structure LinesCorrespond (C : Token → Token → Prop) (x y : List Char) : Prop where
  label : ∀ s : Scheme, s.label <+: x ↔ s.label <+: y
  token : Option.Rel C (Token.extract x) (Token.extract y)

/-- Results of two passes that began with `c` and `c'` and differ in tokens that correspond. -/
structure InsertionsCorrespond (C : Token → Token → Prop) (c c' : Consumed)
    (x y : InsertReport × Consumed) : Prop where
  inserted : x.1.inserted.map InsertedKey.binding = y.1.inserted.map InsertedKey.binding
  skipped : x.1.skipped = y.1.skipped
  /-- The tokens chosen are those added to the ones consumed before, and those whose fingerprints
  are reported. -/
  chosen : ∃ ts us, List.Forall₂ C ts us ∧
    x.2.tokens = c.tokens ++ ts ∧ y.2.tokens = c'.tokens ++ us ∧
    x.1.inserted.map InsertedKey.fingerprint = ts.map Token.fingerprint ∧
    y.1.inserted.map InsertedKey.fingerprint = us.map Token.fingerprint
  consumed : List.Forall₂ C x.2.tokens y.2.tokens

/-! ## Selection -/

section

variable {C : Token → Token → Prop} {lines lines' : List (List Char)} {c c' : Consumed}

theorem candidates_correspond (h : List.Forall₂ (LinesCorrespond C) lines lines') (s : Scheme) :
    List.Forall₂ (Option.Rel C) (candidates lines s) (candidates lines' s) := by
  refine List.rel_map (R := LinesCorrespond C) (fun _ _ hxy => hxy.token) ?_
  refine List.rel_filter (fun x y hxy => ?_) h
  simpa only [List.isPrefixOf_iff_prefix] using hxy.label s

/-- What is found first corresponds when what is found in each element does. -/
theorem findSome?_correspond {α β : Type} {R : α → β → Prop} {f : α → Option Token}
    {g : β → Option Token} (hfg : ∀ a b, R a b → Option.Rel C (f a) (g b)) {as : List α}
    {bs : List β} (h : List.Forall₂ R as bs) :
    Option.Rel C (as.findSome? f) (bs.findSome? g) := by
  induction h with
  | nil => exact .none
  | @cons a b _ _ hab _ ih =>
    have hfirst := hfg a b hab
    rw [List.findSome?_cons, List.findSome?_cons]
    generalize f a = x at hfirst ⊢
    generalize g b = y at hfirst ⊢
    cases hfirst with
    | none => exact ih
    | some htu => exact .some htu

variable (hC : BiUnique C) (hc : List.Forall₂ C c.tokens c'.tokens)

include hC hc

theorem contains_correspond {t u : Token} (htu : C t u) : c.contains t = c'.contains u := by
  unfold Consumed.contains
  rw [decide_eq_decide]
  exact List.rel_mem hC htu hc

theorem insert_correspond {t u : Token} (htu : C t u) :
    List.Forall₂ C (c.insert t).tokens (c'.insert u).tokens := by
  unfold Consumed.insert
  rw [contains_correspond hC hc htu]
  cases c'.contains u with
  | true => exact hc
  | false => exact List.rel_append hc (.cons htu .nil)

/-- Whether a candidate is free does not depend on which of two corresponding tokens it is. -/
theorem free_correspond {t? u? : Option Token} (h : Option.Rel C t? u?) :
    Option.Rel C (t?.filter fun t => !c.contains t) (u?.filter fun u => !c'.contains u) := by
  cases h with
  | none => exact .none
  | @some t u htu =>
    rw [Option.filter_some, Option.filter_some, contains_correspond hC hc htu]
    cases c'.contains u with
    | true => exact .none
    | false => exact .some htu

/-- **Corresponding lines give corresponding tokens**, or no token either. -/
theorem selectToken_correspond (h : List.Forall₂ (LinesCorrespond C) lines lines') (s : Scheme)
    (policy : ConflictPolicy) :
    Option.Rel C (selectToken lines s c policy) (selectToken lines' s c' policy) := by
  have hcand := candidates_correspond h s
  unfold selectToken
  generalize candidates lines s = ts at hcand ⊢
  generalize candidates lines' s = us at hcand ⊢
  cases policy with
  | advance => exact findSome?_correspond (fun _ _ ht => free_correspond hC hc ht) hcand
  | firstMatchOnly =>
    cases hcand with
    | nil => exact .none
    | cons hhead _ => exact free_correspond hC hc hhead

end

/-! ## Assignments -/

section

variable {C : Token → Token → Prop}

theorem assign_correspond (hC : BiUnique C) {lines lines' : List (List Char)}
    (h : List.Forall₂ (LinesCorrespond C) lines lines') (policy : ConflictPolicy)
    (bs : List Binding) {c c' : Consumed} (hc : List.Forall₂ C c.tokens c'.tokens) :
    List.Forall₂ (Assignment.Corresponds C) (assign policy lines bs c)
      (assign policy lines' bs c') := by
  induction bs generalizing c c' with
  | nil => exact .nil
  | cons b rest ih =>
    have hsel := selectToken_correspond hC hc h b.scheme policy
    rw [assign, assign]
    generalize selectToken lines b.scheme c policy = t? at hsel ⊢
    generalize selectToken lines' b.scheme c' policy = u? at hsel ⊢
    cases hsel with
    | none => exact .cons ⟨rfl, .none⟩ (ih hc)
    | some htu => exact .cons ⟨rfl, .some htu⟩ (ih (insert_correspond hC hc htu))

variable {as as' : List Assignment} (h : List.Forall₂ (Assignment.Corresponds C) as as')

include h

theorem Assignment.tokens_correspond :
    List.Forall₂ C (Assignment.tokens as) (Assignment.tokens as') :=
  List.rel_filterMap (R := Assignment.Corresponds C) (fun _ _ ha => ha.token) h

theorem Assignment.bindings_correspond {p : Option Token → Bool}
    (hp : ∀ t? u?, Option.Rel C t? u? → p t? = p u?) :
    (as.filter fun a => p a.token).map Assignment.binding =
      (as'.filter fun a => p a.token).map Assignment.binding := by
  induction h with
  | nil => rfl
  | cons ha _ ih =>
    rw [List.filter_cons, List.filter_cons, hp _ _ ha.token]
    split
    · rw [List.map_cons, List.map_cons, ha.binding, ih]
    · exact ih

theorem Assignment.skipped_correspond :
    (Assignment.report as).skipped = (Assignment.report as').skipped := by
  rw [Assignment.skipped_eq, Assignment.skipped_eq]
  refine Assignment.bindings_correspond (p := Option.isNone) h fun t? u? ht => ?_
  cases ht <;> rfl

theorem Assignment.inserted_correspond :
    (Assignment.report as).inserted.map InsertedKey.binding =
      (Assignment.report as').inserted.map InsertedKey.binding := by
  rw [Assignment.map_binding_inserted, Assignment.map_binding_inserted]
  refine Assignment.bindings_correspond (p := Option.isSome) h fun t? u? ht => ?_
  cases ht <;> rfl

end

/-! ## Top theorem -/

/-- **Secrets never influence what is executed.**  Two passes whose lines and consumed tokens
correspond one to one make the same calls, leave the same files, and fail with the same error or
come to results that correspond. -/
theorem insertLines_correspond {σ : Type} {C : Token → Token → Prop} (hC : BiUnique C)
    {lines lines' : List (List Char)} (hlines : List.Forall₂ (LinesCorrespond C) lines lines')
    {c c' : Consumed} (hc : List.Forall₂ C c.tokens c'.tokens) (r : Runner σ) (node : String)
    (policy : ConflictPolicy) (password : Password) (bindings : List Binding) (s : Session σ) :
    ∃ x y s₁ s₂, insertLines r node policy password lines bindings c s = (x, s₁) ∧
      insertLines r node policy password lines' bindings c' s = (y, s₂) ∧
      s₁.calls = s₂.calls ∧ s₁.files = s₂.files ∧ s₁.state = s₂.state ∧
      Run.Matching (InsertionsCorrespond C c c') x y := by
  have has := assign_correspond hC hlines policy bindings hc
  have hB : Session.Bond r node password.payload password.payload (fun _ _ => True)
      (Session.Agrees fun _ => True) :=
    Session.Agrees.bond (fun _ _ _ h => h) (fun _ _ _ _ h => h) node password.payload
  have hresult : InsertionsCorrespond C c c'
      (Assignment.report (assign policy lines bindings c),
        c.insertAll (Assignment.tokens (assign policy lines bindings c)))
      (Assignment.report (assign policy lines' bindings c'),
        c'.insertAll (Assignment.tokens (assign policy lines' bindings c'))) := by
    have htokens := Assignment.tokens_correspond has
    refine ⟨Assignment.inserted_correspond has, Assignment.skipped_correspond has,
      ⟨_, _, htokens, tokens_insertAll_assign .., tokens_insertAll_assign ..,
        Assignment.map_fingerprint_inserted _, Assignment.map_fingerprint_inserted _⟩, ?_⟩
    rw [tokens_insertAll_assign, tokens_insertAll_assign]
    exact List.rel_append hc htokens
  have halike : Run.Alike (Session.Agrees fun _ => True) (InsertionsCorrespond C c c')
      (insertLines r node policy password lines bindings c)
      (insertLines r node policy password lines' bindings c') := by
    unfold insertLines
    rw [insertKeys_eq, insertKeys_eq]
    refine (hB.alike_insertAssigned (fun _ _ _ _ => trivial) has).bind_same fun _ => ?_
    exact Run.alike_pure hresult
  obtain ⟨hout, hses⟩ := halike s s ⟨rfl, rfl, rfl, trivial⟩
  exact ⟨_, _, _, _, rfl, rfl, hses.calls, hses.files, hses.state, hout⟩

/-- Two tokens that change places and one that is exchanged for a new one, in repeated lines of two
schemes and among those consumed.  Two commands are issued and two bindings skipped; first every
command succeeds, then the second fails. -/
theorem insertLines_correspond_exchanged :
    let a : Token := ⟨"0xa".toList, by decide⟩
    let b : Token := ⟨"0xb".toList, by decide⟩
    let k : Token := ⟨"0xc".toList, by decide⟩
    let l : Token := ⟨"0xd".toList, by decide⟩
    let pairs := [(a, b), (b, a), (k, l)]
    let C (t u : Token) : Prop := (t, u) ∈ pairs
    let lines := ["sr25519: 0xb".toList, "sr25519: 0xa".toList, "ed25519: 0xa x".toList,
      "sr25519: 0xa".toList, "ed25519: 0xc".toList]
    let lines' := ["sr25519: seed 0xa".toList, "sr25519: 0xb".toList, "ed25519: 0xb".toList,
      "sr25519: 0xb".toList, "ed25519: 0xd".toList]
    let c : Consumed := ⟨[b]⟩
    let c' : Consumed := ⟨[a]⟩
    let password : Password := ⟨"pw", by decide⟩
    let answers := [.output "", .failure "exit status: 1" ""]
    let skipped : List Binding :=
      [⟨.sr25519, ⟨"imon", by decide⟩⟩, ⟨.sr25519, ⟨"audi", by decide⟩⟩]
    BiUnique C ∧ List.Forall₂ (LinesCorrespond C) lines lines' ∧
    List.Forall₂ C c.tokens c'.tokens ∧
    (∃ x y s₁ s₂,
      insertLines Runner.silent "node" .advance password lines defaultBindings c ⟨{}, (), [], []⟩ =
        (.ok x, s₁) ∧
      insertLines Runner.silent "node" .advance password lines' defaultBindings c'
        ⟨{}, (), [], []⟩ = (.ok y, s₂) ∧
      InsertionsCorrespond C c c' x y ∧ s₁.calls = s₂.calls ∧ s₁.calls.length = 2 ∧
      x.2.tokens = [b, a, k] ∧ y.2.tokens = [a, b, l] ∧ x.1.skipped = skipped) ∧
    ∃ e s₁ s₂,
      insertLines scripted "node" .advance password lines defaultBindings c ⟨{}, answers, [], []⟩ =
        (.error e, s₁) ∧
      insertLines scripted "node" .advance password lines' defaultBindings c'
        ⟨{}, answers, [], []⟩ = (.error e, s₂) ∧
      s₁.calls = s₂.calls ∧ s₁.calls.length = 2 := by
  intro a b k l pairs C lines lines' c c' password answers skipped
  have hpairs : ∀ p ∈ pairs, ∀ q ∈ pairs, p.1 = q.1 ↔ p.2 = q.2 := by decide
  have hC : BiUnique C :=
    ⟨fun t t' u h h' => (hpairs _ h _ h').mpr rfl, fun t u u' h h' => (hpairs _ h _ h').mp rfl⟩
  have hline : ∀ x y : List Char,
      (Scheme.all.all fun s => s.label.isPrefixOf x == s.label.isPrefixOf y) = true →
      (∃ p ∈ pairs, Token.extract x = some p.1 ∧ Token.extract y = some p.2) →
      LinesCorrespond C x y := by
    rintro x y hlabel ⟨p, hp, hx, hy⟩
    refine ⟨fun s => ?_, ?_⟩
    · have hs := beq_iff_eq.mp (List.all_eq_true.mp hlabel s s.mem_all)
      rw [← List.isPrefixOf_iff_prefix, ← List.isPrefixOf_iff_prefix, hs]
    · rw [hx, hy]
      exact .some hp
  have hlines : List.Forall₂ (LinesCorrespond C) lines lines' := by
    refine .cons ?_ (.cons ?_ (.cons ?_ (.cons ?_ (.cons ?_ .nil)))) <;>
      exact hline _ _ (by decide) (by decide +kernel)
  have hc : List.Forall₂ C c.tokens c'.tokens := .cons (by decide) .nil
  refine ⟨hC, hlines, hc, ?_, ?_⟩
  · obtain ⟨x, y, s₁, s₂, hx, hy, hcalls, -, -, hout⟩ := insertLines_correspond hC hlines hc
      Runner.silent "node" .advance password defaultBindings ⟨{}, (), [], []⟩
    obtain ⟨s, hrun, hissued⟩ := insertLines_of_alwaysAnswers Runner.silent
      Runner.silent_alwaysAnswers "node" .advance password lines defaultBindings c ⟨{}, (), [], []⟩
    cases hx.symm.trans hrun
    cases hout with
    | @ok _ y h =>
      have hy' := (insertLines_ok hy).2
      refine ⟨_, y, _, s₂, hrun, hy, h, hcalls, ?_, ?_, ?_, ?_⟩
      · rw [hissued]
        decide +kernel
      · decide +kernel
      · rw [hy']
        decide +kernel
      · decide +kernel
  · obtain ⟨x, y, s₁, s₂, hx, hy, hcalls, -, -, hout⟩ := insertLines_correspond hC hlines hc
      scripted "node" .advance password defaultBindings ⟨{}, answers, [], []⟩
    have hfails : x.isOk = false :=
      (congrArg (fun z => z.1.isOk) hx).symm.trans (by decide +kernel)
    have hissued : s₁.calls.length = 2 :=
      (congrArg (fun z => z.2.calls.length) hx).symm.trans (by decide +kernel)
    cases hout with
    | ok => cases hfails
    | error e => exact ⟨e, s₁, s₂, hx, hy, hcalls, hissued⟩

end ValidatorKeys
