import ValidatorKeys.Proofs.Toml.WellFormed

/-!
# One table apart from the others

The statements of a document fill its tables one after the other.  Those under the header of a
table of the root fill that table and nothing else; those that open other tables never look at it.
So the other tables of a document do not depend on what stands under the header, and the table does
not depend on them:

    run (before ++ [key] :: definitions ++ after) = the tables of before and after,
                                                    with the table of definitions at key
-/

namespace ValidatorKeys.Toml

/-! ## Definitions -/

/-- The name in the root of the table that a statement opens. -/
def Statement.opens : Statement → Option String
  | .header path key => (path ++ [key]).head?
  | .element path key => (path ++ [key]).head?
  | .definition _ _ _ => none

def Statement.isDefinition : Statement → Bool
  | .definition _ _ _ => true
  | _ => false

/-- What one statement does: the path of the table under definition behind it, and the root. -/
def Statement.run (st : Statement) (current : List String) (root : Section) :
    Option (List String × Section) :=
  match st with
  | .header path key => (root.openTable path key).map fun s => (path ++ [key], s)
  | .element path key => (root.openElement path key).map fun s => (path ++ [key], s)
  | .definition path key v =>
    (Section.modify false (fun s => s.define path key v) current root).map fun s => (current, s)

/-- A statement that leaves the table of a key alone: it opens another table, or defines a value in
another one than the root. -/
structure Statement.Apart (key : String) (current : List String) (st : Statement) : Prop where
  opens_ne : st.opens ≠ some key
  path : st.isDefinition = true → ∃ first rest, current = first :: rest ∧ first ≠ key

def currentPath : List Statement → List String → List String
  | [], current => current
  | .header path key :: rest, _ => currentPath rest (path ++ [key])
  | .element path key :: rest, _ => currentPath rest (path ++ [key])
  | .definition _ _ _ :: rest, current => currentPath rest current

/-- Carries out definitions on the table in which they stand. -/
def defineAll : List Statement → Section → Option Section
  | [], s => some s
  | .definition path key v :: rest, s => (s.define path key v).bind (defineAll rest)
  | _ :: _, _ => none

def definitionsOf (fs : List (String × Value)) : List Statement :=
  fs.map fun f => .definition [] f.1 f.2

/-- The table with another value in the place of that of a key. -/
def Table.set (t : Table) (key : String) (v : Value) : Table :=
  t.map fun f => if f.1 = key then (key, v) else f

/-! ## Running one part after the other -/

theorem runStatements_cons (st : Statement) (sts : List Statement) (current : List String)
    (root : Section) : runStatements (st :: sts) current root =
      (st.run current root).bind fun x => runStatements sts x.1 x.2 := by
  cases st with
  | header path key =>
    rw [Statement.run, Option.bind_map]
    rfl
  | element path key =>
    rw [Statement.run, Option.bind_map]
    rfl
  | definition path key v =>
    rw [Statement.run, Option.bind_map]
    rfl

/-- The path behind a statement does not depend on the tables. -/
theorem currentPath_cons {st : Statement} {current : List String} {root : Section}
    {x : List String × Section} (h : st.run current root = some x) (sts : List Statement) :
    currentPath (st :: sts) current = currentPath sts x.1 := by
  cases st with
  | header path key =>
    obtain ⟨s, -, rfl⟩ := Option.map_eq_some_iff.mp h
    rfl
  | element path key =>
    obtain ⟨s, -, rfl⟩ := Option.map_eq_some_iff.mp h
    rfl
  | definition path key v =>
    obtain ⟨s, -, rfl⟩ := Option.map_eq_some_iff.mp h
    rfl

theorem runStatements_append (a b : List Statement) (current : List String) (root : Section) :
    runStatements (a ++ b) current root =
      (runStatements a current root).bind (runStatements b (currentPath a current)) := by
  induction a generalizing current root with
  | nil => rfl
  | cons st a ih =>
    rw [List.cons_append, runStatements_cons, runStatements_cons, Option.bind_assoc]
    refine Option.bind_congr fun x hx => ?_
    rw [ih, currentPath_cons hx]

/-! ## Sections and other keys -/

namespace Section

variable {s : Section} {key key' : String} {e e' : Entry}

theorem get?_push_of_ne (hne : key' ≠ key) : (s.push key' e').get? key = s.get? key := by
  rw [Section.push, get?, List.find?_append]
  cases h : s.fields.find? fun f => f.1 == key with
  | some f =>
    rw [get?, h]
    rfl
  | none =>
    rw [get?, h, List.find?_cons, beq_false_of_ne hne]
    rfl

theorem get?_push_self (h : s.get? key = none) : (s.push key e).get? key = some e := by
  rw [get?, Option.map_eq_none_iff] at h
  rw [Section.push, get?, List.find?_append, h, List.find?_cons, beq_self_eq_true]
  rfl

theorem get?_replace_of_ne (hne : key' ≠ key) : (s.replace key e).get? key' = s.get? key' := by
  rw [replace, get?, get?, List.find?_map]
  have hkey : ((fun f : String × Entry => f.1 == key') ∘
      fun f => if (f.1 == key) = true then (key, e) else f) = fun f => f.1 == key' := by
    funext f
    by_cases hf : f.1 = key
    · simp [hf]
    · simp [hf]
  rw [hkey]
  cases hf : s.fields.find? fun f => f.1 == key' with
  | none => rfl
  | some f =>
    have hk := List.find?_some hf
    rw [beq_iff_eq] at hk
    simp [hk, hne]

theorem get?_replace_self (h : s.get? key ≠ none) : (s.replace key e).get? key = some e := by
  rw [replace, get?, List.find?_map]
  have hkey : ((fun f : String × Entry => f.1 == key) ∘
      fun f => if (f.1 == key) = true then (key, e) else f) = fun f => f.1 == key := by
    funext f
    by_cases hf : f.1 = key
    · simp [hf]
    · simp [hf]
  rw [hkey]
  cases hf : s.fields.find? fun f => f.1 == key with
  | none =>
    rw [get?, hf] at h
    exact absurd rfl h
  | some f =>
    have hk := List.find?_some hf
    rw [beq_iff_eq] at hk
    simp [hk]

theorem get?_erase_of_ne (hne : key' ≠ key) : (s.erase key').get? key = s.get? key := by
  have hfilter : (s.fields.filter fun f => f.1 != key').find? (fun f => f.1 == key) =
      s.fields.find? fun f => f.1 == key := by
    rw [List.find?_filter]
    congr 1
    funext f
    by_cases hf : f.1 = key
    · simp [hf, hne.symm]
    · simp [hf]
  rw [erase, get?, get?, hfilter]

theorem push_replace (hne : key' ≠ key) :
    (s.replace key e).push key' e' = (s.push key' e').replace key e := by
  simp [Section.push, replace, hne]

theorem replace_replace (hne : key' ≠ key) :
    (s.replace key e).replace key' e' = (s.replace key' e').replace key e := by
  simp only [replace, List.map_map]
  congr 1
  refine List.map_congr_left fun f _ => ?_
  by_cases hf : f.1 = key
  · simp [hf, hne.symm]
  · by_cases hf' : f.1 = key'
    · simp [hf', hne]
    · simp [hf, hf']

theorem erase_replace :
    (s.replace key e).erase key' = (s.erase key').replace key e := by
  simp only [replace, erase, List.filter_map]
  congr 2
  refine List.filter_congr fun f _ => ?_
  by_cases hf : f.1 = key
  · simp [hf]
  · simp [hf]

theorem replace_eq_self (h : s.get? key = none) : s.replace key e = s := by
  have hfields : (s.fields.map fun f => if f.1 == key then (key, e) else f) = s.fields := by
    rw [get?_eq_none_iff] at h
    refine (List.map_congr_left fun f hf => ?_).trans (List.map_id _)
    have : f.1 ≠ key := by
      rintro rfl
      exact h (List.mem_map_of_mem hf)
    simp [this]
  rw [replace, hfields]

theorem replace_push_self (h : s.get? key = none) :
    (s.push key e).replace key e' = s.push key e' := by
  have hs := congrArg Section.fields (replace_eq_self (e := e') h)
  change (s.fields.map fun f => if f.1 == key then (key, e') else f) = s.fields at hs
  simp only [Section.push, replace, List.map_append, hs]
  simp

/-- A change under another key does not touch an entry, and does not depend on it. -/
theorem modify_replace {viaDots : Bool} {f : Section → Option Section} {rest : List String}
    (hne : key' ≠ key) :
    Section.modify viaDots f (key' :: rest) (s.replace key e) =
      (Section.modify viaDots f (key' :: rest) s).map fun s' => s'.replace key e := by
  rw [Section.modify, Section.modify, get?_replace_of_ne hne]
  cases s.get? key' with
  | none =>
    cases Section.modify viaDots f rest { implicit := true, dotted := viaDots } with
    | none => rfl
    | some child => exact congrArg some (push_replace hne)
  | some entry =>
    cases entry with
    | value v => rfl
    | table implicit dotted fields =>
      dsimp only
      by_cases h : (viaDots && !implicit) = true
      · rw [if_pos h, if_pos h]
        rfl
      · rw [if_neg h, if_neg h]
        cases Section.modify viaDots f rest ⟨implicit, dotted, fields⟩ with
        | none => rfl
        | some child => exact congrArg some (replace_replace hne)
    | tables elements =>
      dsimp only
      cases elements.getLast? with
      | none => rfl
      | some last =>
        dsimp only
        cases Section.modify viaDots f rest { fields := last } with
        | none => rfl
        | some child => exact congrArg some (replace_replace hne)

theorem openTable_replace {path : List String} {name : String}
    (hne : (path ++ [name]).head? ≠ some key) :
    (s.replace key e).openTable path name =
      (s.openTable path name).map fun s' => s'.replace key e := by
  cases path with
  | nil =>
    have hne : name ≠ key := fun h => hne (congrArg some h)
    unfold openTable modify
    rw [get?_replace_of_ne hne]
    cases s.get? name with
    | none => exact congrArg some (push_replace hne)
    | some entry =>
      cases entry with
      | value v => rfl
      | tables elements => rfl
      | table implicit dotted fields =>
        cases implicit with
        | false => rfl
        | true =>
          cases dotted with
          | true => rfl
          | false => exact congrArg some (by rw [erase_replace, push_replace hne])
  | cons first rest =>
    have hne : first ≠ key := fun h => hne (congrArg some h)
    exact modify_replace hne

theorem openElement_replace {path : List String} {name : String}
    (hne : (path ++ [name]).head? ≠ some key) :
    (s.replace key e).openElement path name =
      (s.openElement path name).map fun s' => s'.replace key e := by
  cases path with
  | nil =>
    have hne : name ≠ key := fun h => hne (congrArg some h)
    unfold openElement modify
    rw [get?_replace_of_ne hne]
    cases s.get? name with
    | none => exact congrArg some (push_replace hne)
    | some entry =>
      cases entry with
      | value v => rfl
      | table implicit dotted fields => rfl
      | tables elements => exact congrArg some (replace_replace hne)
  | cons first rest =>
    have hne : first ≠ key := fun h => hne (congrArg some h)
    exact modify_replace hne

theorem get?_modify_of_ne {viaDots : Bool} {f : Section → Option Section} {rest : List String}
    {s' : Section} (hne : key' ≠ key) (h : Section.modify viaDots f (key' :: rest) s = some s') :
    s'.get? key = s.get? key := by
  cases modified_of_modify h with
  | made _ _ => exact get?_push_of_ne hne
  | table _ _ _ => exact get?_replace_of_ne hne.symm
  | element _ _ _ => exact get?_replace_of_ne hne.symm

theorem get?_openTable_of_ne {path : List String} {name : String} {s' : Section}
    (hne : (path ++ [name]).head? ≠ some key) (h : s.openTable path name = some s') :
    s'.get? key = s.get? key := by
  cases path with
  | nil =>
    have hne : name ≠ key := fun h => hne (congrArg some h)
    unfold openTable modify at h
    split at h
    · cases h
      exact get?_push_of_ne hne
    · cases h
      rw [get?_push_of_ne hne, get?_erase_of_ne hne]
    · cases h
  | cons first rest =>
    have hne : first ≠ key := fun h => hne (congrArg some h)
    exact get?_modify_of_ne hne h

theorem get?_openElement_of_ne {path : List String} {name : String} {s' : Section}
    (hne : (path ++ [name]).head? ≠ some key) (h : s.openElement path name = some s') :
    s'.get? key = s.get? key := by
  cases path with
  | nil =>
    have hne : name ≠ key := fun h => hne (congrArg some h)
    unfold openElement modify at h
    split at h
    · cases h
      exact get?_push_of_ne hne
    · cases h
      exact get?_replace_of_ne hne.symm
    · cases h
  | cons first rest =>
    have hne : first ≠ key := fun h => hne (congrArg some h)
    exact get?_modify_of_ne hne h

/-- No header can open the table of a key any more: there is none, or one that a dotted key made. -/
def Closed (s : Section) (key : String) : Prop :=
  ∀ e, s.get? key = some e → (∃ v, e = .value v) ∨ ∃ implicit fs, e = .table implicit true fs

theorem closed_of_none (h : s.get? key = none) : s.Closed key := by
  intro e he
  rw [h] at he
  cases he

theorem closed_of_some (h : s.get? key = some e)
    (he : (∃ v, e = .value v) ∨ ∃ implicit fs, e = .table implicit true fs) : s.Closed key := by
  intro e' he'
  obtain rfl := Option.some.inj (h.symm.trans he')
  exact he

theorem Closed.of_get?_eq {s' : Section} (hs : s.Closed key) (h : s'.get? key = s.get? key) :
    s'.Closed key := fun e he => hs e (h ▸ he)

/-- A change keeps the flags of a section when it does so at the end of the path. -/
theorem dotted_modify {viaDots : Bool} {f : Section → Option Section} {path : List String}
    {s' : Section} (hf : ∀ t t', f t = some t' → t'.dotted = t.dotted)
    (h : Section.modify viaDots f path s = some s') : s'.dotted = s.dotted := by
  cases path with
  | nil => exact hf s s' h
  | cons key rest =>
    cases modified_of_modify h with
    | made _ _ => rfl
    | table _ _ _ => rfl
    | element _ _ _ => rfl

theorem dotted_of_definition {viaDots b : Bool} {path : List String} {name : String} {v : Value}
    {s' : Section}
    (h : Section.modify viaDots (fun s =>
      if s.dotted = b then none
      else if (s.get? name).isSome then none
      else some (s.push name (.value v))) path s = some s') : s'.dotted = s.dotted := by
  refine dotted_modify (fun t t' ht => ?_) h
  split at ht
  · cases ht
  · split at ht
    · cases ht
    · cases ht
      rfl

theorem define_nil_eq_some {name : String} {v : Value} {s' : Section}
    (h : s.define [] name v = some s') : s.get? name = none ∧ s' = s.push name (.value v) := by
  unfold Section.define Section.modify at h
  split at h
  · cases h
  · split at h
    · cases h
    · next hname => exact ⟨by simpa using hname, (Option.some.inj h).symm⟩

/-- A definition in the root leaves a key closed: what it makes there no header opens. -/
theorem Closed.define {path : List String} {name : String} {v : Value} {s' : Section}
    (hs : s.Closed key) (h : s.define path name v = some s') : s'.Closed key := by
  cases path with
  | nil =>
    obtain ⟨hname, rfl⟩ := define_nil_eq_some h
    by_cases hk : name = key
    · subst hk
      exact closed_of_some (get?_push_self hname) (Or.inl ⟨v, rfl⟩)
    · exact hs.of_get?_eq (get?_push_of_ne hk)
  | cons first rest =>
    by_cases hk : first = key
    · subst hk
      cases modified_of_modify h with
      | @made child hnone hchild =>
        have hdotted : child.dotted = true := dotted_of_definition hchild
        exact closed_of_some (get?_push_self hnone)
          (Or.inr ⟨child.implicit, child.fields, by rw [entry, hdotted]⟩)
      | @table implicit dotted fields child hsome _ hchild =>
        have hdotted : child.dotted = dotted := dotted_of_definition hchild
        obtain ⟨w, hw⟩ | ⟨i, fs, hfs⟩ := hs _ hsome
        · cases hw
        · cases hfs
          exact closed_of_some (get?_replace_self (by simp [hsome]))
            (Or.inr ⟨child.implicit, child.fields, by rw [entry, hdotted]⟩)
      | element hsome _ _ =>
        obtain ⟨w, hw⟩ | ⟨i, fs, hfs⟩ := hs _ hsome
        · cases hw
        · cases hfs
    · exact hs.of_get?_eq (get?_modify_of_ne hk h)

theorem get?_none_of_openTable {s' : Section} (hs : s.Closed key)
    (h : s.openTable [] key = some s') :
    s.get? key = none ∧ s' = s.push key (.table false false []) := by
  unfold openTable modify at h
  split at h
  · next hnone =>
    cases h
    exact ⟨hnone, rfl⟩
  · next fields hsome =>
    obtain ⟨w, hw⟩ | ⟨i, fs, hfs⟩ := hs _ hsome
    · cases hw
    · cases hfs
  · cases h

end Section

/-! ## Statements that leave a table alone -/

/-- A statement that does not open the table of a key leaves it closed. -/
theorem Section.Closed.run {key : String} {st : Statement} {current : List String} {root : Section}
    {x : List String × Section} (hroot : root.Closed key) (hopens : st.opens ≠ some key)
    (hcurrent : current.head? ≠ some key) (h : st.run current root = some x) :
    x.2.Closed key ∧ x.1.head? ≠ some key := by
  cases st with
  | header path name =>
    obtain ⟨s, hs, rfl⟩ := Option.map_eq_some_iff.mp h
    exact ⟨hroot.of_get?_eq (Section.get?_openTable_of_ne hopens hs), hopens⟩
  | element path name =>
    obtain ⟨s, hs, rfl⟩ := Option.map_eq_some_iff.mp h
    exact ⟨hroot.of_get?_eq (Section.get?_openElement_of_ne hopens hs), hopens⟩
  | definition path name v =>
    obtain ⟨s, hs, rfl⟩ := Option.map_eq_some_iff.mp h
    cases current with
    | nil => exact ⟨hroot.define hs, hcurrent⟩
    | cons first rest =>
      have hne : first ≠ key := fun h => hcurrent (congrArg some h)
      exact ⟨hroot.of_get?_eq (Section.get?_modify_of_ne hne hs), hcurrent⟩

theorem closed_runStatements {key : String} {sts : List Statement} {current : List String}
    {root s : Section} (hopens : ∀ st ∈ sts, st.opens ≠ some key)
    (hcurrent : current.head? ≠ some key) (hroot : root.Closed key)
    (h : runStatements sts current root = some s) : s.Closed key := by
  induction sts generalizing current root with
  | nil =>
    cases h
    exact hroot
  | cons st sts ih =>
    obtain ⟨hst, hrest⟩ := List.forall_mem_cons.mp hopens
    rw [runStatements_cons] at h
    obtain ⟨x, hx, h⟩ := Option.bind_eq_some_iff.mp h
    obtain ⟨hclosed, hpath⟩ := hroot.run hst hcurrent hx
    exact ih hrest hpath hclosed h

theorem exists_first_ne {key : String} {path : List String} {name : String}
    (h : (path ++ [name]).head? ≠ some key) :
    ∃ first rest, path ++ [name] = first :: rest ∧ first ≠ key := by
  cases path with
  | nil => exact ⟨name, [], rfl, fun heq => h (congrArg some heq)⟩
  | cons first rest => exact ⟨first, rest ++ [name], rfl, fun heq => h (congrArg some heq)⟩

namespace Statement.Apart

variable {key : String} {current : List String} {st : Statement} {root : Section}
  {x : List String × Section}

/-- Where another table is under definition, or the statement opens one. -/
theorem of_head {sts : List Statement} (hopens : st.opens ≠ some key)
    (hcurrent : (∃ first rest, current = first :: rest ∧ first ≠ key) ∨
      ∀ x ∈ (st :: sts).head?, x.isDefinition = false) : st.Apart key current := by
  refine ⟨hopens, fun hdefinition => hcurrent.resolve_right fun hhead => ?_⟩
  rw [hhead st rfl] at hdefinition
  cases hdefinition

/-- The next statement stands under another header too. -/
theorem behind (h : st.Apart key current) (hx : st.run current root = some x) :
    ∃ first rest, x.1 = first :: rest ∧ first ≠ key := by
  cases st with
  | header path name =>
    obtain ⟨s, -, rfl⟩ := Option.map_eq_some_iff.mp hx
    exact exists_first_ne h.opens_ne
  | element path name =>
    obtain ⟨s, -, rfl⟩ := Option.map_eq_some_iff.mp hx
    exact exists_first_ne h.opens_ne
  | definition path name v =>
    obtain ⟨s, -, rfl⟩ := Option.map_eq_some_iff.mp hx
    exact h.path rfl

/-- It does not depend on the table. -/
theorem run_replace (h : st.Apart key current) (root : Section) (e : Entry) :
    st.run current (root.replace key e) =
      (st.run current root).map fun x => (x.1, x.2.replace key e) := by
  cases st with
  | header path name =>
    rw [run, run, Section.openTable_replace h.opens_ne, Option.map_map, Option.map_map]
    rfl
  | element path name =>
    rw [run, run, Section.openElement_replace h.opens_ne, Option.map_map, Option.map_map]
    rfl
  | definition path name v =>
    obtain ⟨first, rest, rfl, hne⟩ := h.path rfl
    rw [run, run, Section.modify_replace hne, Option.map_map, Option.map_map]
    rfl

/-- It leaves the table as it is. -/
theorem get?_run (h : st.Apart key current) (hx : st.run current root = some x) :
    x.2.get? key = root.get? key := by
  cases st with
  | header path name =>
    obtain ⟨s, hs, rfl⟩ := Option.map_eq_some_iff.mp hx
    exact Section.get?_openTable_of_ne h.opens_ne hs
  | element path name =>
    obtain ⟨s, hs, rfl⟩ := Option.map_eq_some_iff.mp hx
    exact Section.get?_openElement_of_ne h.opens_ne hs
  | definition path name v =>
    obtain ⟨first, rest, rfl, hne⟩ := h.path rfl
    obtain ⟨s, hs, rfl⟩ := Option.map_eq_some_iff.mp hx
    exact Section.get?_modify_of_ne hne hs

end Statement.Apart

section

variable {key : String} {sts : List Statement} {current : List String} {root : Section}
  (hopens : ∀ st ∈ sts, st.opens ≠ some key)
  (hcurrent : (∃ first rest, current = first :: rest ∧ first ≠ key) ∨
    ∀ st ∈ sts.head?, st.isDefinition = false)

include hopens hcurrent

/-- Statements under other headers do not depend on the table of a key. -/
theorem runStatements_replace {e : Entry} :
    runStatements sts current (root.replace key e) =
      (runStatements sts current root).map fun s => s.replace key e := by
  induction sts generalizing current root with
  | nil => rfl
  | cons st sts ih =>
    obtain ⟨hst, hrest⟩ := List.forall_mem_cons.mp hopens
    have hapart := Statement.Apart.of_head hst hcurrent
    rw [runStatements_cons, runStatements_cons, hapart.run_replace, Option.bind_map,
      Option.map_bind]
    refine Option.bind_congr fun x hx => ?_
    have hbehind := hapart.behind hx
    exact ih hrest (Or.inl hbehind)

/-- They leave it as it is. -/
theorem get?_runStatements {s : Section} (h : runStatements sts current root = some s) :
    s.get? key = root.get? key := by
  induction sts generalizing current root with
  | nil =>
    cases h
    rfl
  | cons st sts ih =>
    obtain ⟨hst, hrest⟩ := List.forall_mem_cons.mp hopens
    have hapart := Statement.Apart.of_head hst hcurrent
    rw [runStatements_cons] at h
    obtain ⟨x, hx, h⟩ := Option.bind_eq_some_iff.mp h
    rw [ih hrest (Or.inl (hapart.behind hx)) h, hapart.get?_run hx]

end

/-! ## The definitions under a header -/

/-- Definitions under the header of a table fill that table. -/
theorem runStatements_definitions {key : String} {sts : List Statement} {root c : Section}
    (hsts : ∀ st ∈ sts, st.isDefinition = true) (hroot : root.get? key = none) :
    runStatements sts [key] (root.push key c.entry) =
      (defineAll sts c).map fun c' => root.push key c'.entry := by
  induction sts generalizing c with
  | nil => rfl
  | cons st sts ih =>
    have hrest : ∀ st ∈ sts, st.isDefinition = true := fun st hst =>
      hsts st (List.mem_cons_of_mem _ hst)
    cases st with
    | header path name => cases hsts _ List.mem_cons_self
    | element path name => cases hsts _ List.mem_cons_self
    | definition path name v =>
      have hmodify : Section.modify false (fun s => s.define path name v) [key]
          (root.push key c.entry) =
            (c.define path name v).map fun c' => root.push key c'.entry := by
        rw [Section.modify, Section.get?_push_self hroot]
        change (c.define path name v).bind
          (fun c' => some ((root.push key c.entry).replace key c'.entry)) = _
        cases c.define path name v with
        | none => rfl
        | some c' => exact congrArg some (Section.replace_push_self hroot)
      rw [runStatements, hmodify, defineAll]
      cases c.define path name v with
      | none => rfl
      | some c' => exact ih hrest

/-- Fields with names of their own are put one behind the other. -/
theorem defineAll_definitionsOf {fs : List (String × Value)} {c : Section}
    (hnodup : (fs.map Prod.fst).Nodup) (hnew : ∀ f ∈ fs, c.get? f.1 = none)
    (hdotted : c.dotted = false) :
    defineAll (definitionsOf fs) c =
      some { c with fields := c.fields ++ fs.map fun f => (f.1, .value f.2) } := by
  induction fs generalizing c with
  | nil =>
    rw [List.map_nil, List.append_nil]
    rfl
  | cons f fs ih =>
    obtain ⟨hf, hnodup⟩ := List.nodup_cons.mp hnodup
    have hdefine : c.define [] f.1 f.2 = some (c.push f.1 (.value f.2)) := by
      change (if c.dotted = true then none
        else if (c.get? f.1).isSome then none else some (c.push f.1 (.value f.2))) = _
      rw [hdotted, hnew f List.mem_cons_self]
      rfl
    have hrest : ∀ g ∈ fs, (c.push f.1 (.value f.2)).get? g.1 = none := by
      intro g hg
      have hne : f.1 ≠ g.1 := by
        intro heq
        exact hf (heq ▸ List.mem_map_of_mem hg)
      rw [Section.get?_push_of_ne hne]
      exact hnew g (List.mem_cons_of_mem _ hg)
    change (c.define [] f.1 f.2).bind (defineAll (definitionsOf fs)) = _
    rw [hdefine, Option.bind_some, ih hnodup hrest hdotted]
    simp [Section.push]

/-! ## One table exchanged -/

theorem currentPath_definitions {sts : List Statement} (h : ∀ st ∈ sts, st.isDefinition = true)
    (current : List String) : currentPath sts current = current := by
  induction sts with
  | nil => rfl
  | cons st sts ih =>
    cases st with
    | header path name => cases h _ List.mem_cons_self
    | element path name => cases h _ List.mem_cons_self
    | definition path name v => exact ih fun st hst => h st (List.mem_cons_of_mem _ hst)

/-- **A table of a document can be exchanged.**  With other definitions under its header it has
their fields, and the rest of the document stays as it is. -/
theorem runStatements_exchange {key : String} {a defs b : List Statement} {root : Section}
    (ha : ∀ st ∈ a, st.opens ≠ some key) (hdefs : ∀ st ∈ defs, st.isDefinition = true)
    (hb : ∀ st ∈ b, st.opens ≠ some key) (hfirst : ∀ st ∈ b.head?, st.isDefinition = false)
    (h : runStatements (a ++ .header [] key :: (defs ++ b)) [] {} = some root) :
    ∃ c, defineAll defs {} = some c ∧ root.get? key = some c.entry ∧
      ∀ defs' c', (∀ st ∈ defs', st.isDefinition = true) → defineAll defs' {} = some c' →
        runStatements (a ++ .header [] key :: (defs' ++ b)) [] {} =
          some (root.replace key c'.entry) := by
  rw [runStatements_append] at h
  obtain ⟨root₁, hroot₁, h⟩ := Option.bind_eq_some_iff.mp h
  obtain ⟨root₂, hopen, h⟩ := Option.bind_eq_some_iff.mp h
  have hclosed : root₁.Closed key :=
    closed_runStatements ha (by simp) (Section.closed_of_none rfl) hroot₁
  obtain ⟨hnone, rfl⟩ := Section.get?_none_of_openTable hclosed hopen
  have hrun : ∀ defs', (∀ st ∈ defs', st.isDefinition = true) →
      runStatements (defs' ++ b) [key] (root₁.push key (.table false false [])) =
        ((defineAll defs' {}).map fun c => root₁.push key c.entry).bind
          (runStatements b [key]) := by
    intro defs' hdefs'
    have := runStatements_definitions (c := {}) hdefs' hnone
    rw [runStatements_append, currentPath_definitions hdefs', ← this]
    rfl
  rw [List.nil_append, hrun defs hdefs] at h
  obtain ⟨root₃, hroot₃, h⟩ := Option.bind_eq_some_iff.mp h
  obtain ⟨c, hc, rfl⟩ := Option.map_eq_some_iff.mp hroot₃
  refine ⟨c, hc, ?_, fun defs' c' hdefs' hc' => ?_⟩
  · rw [get?_runStatements hb (Or.inr hfirst) h, Section.get?_push_self hnone]
  · rw [runStatements_append, hroot₁]
    change ((root₁.openTable [] key).bind fun root => runStatements (defs' ++ b) [key] root) = _
    rw [hopen]
    change runStatements (defs' ++ b) [key] (root₁.push key (.table false false [])) = _
    rw [hrun defs' hdefs', hc']
    change runStatements b [key] (root₁.push key c'.entry) = _
    rw [← Section.replace_push_self (e := c.entry) hnone,
      runStatements_replace hb (Or.inr hfirst), h]
    rfl

theorem get?_toTable (s : Section) (key : String) :
    s.toTable.get? key = (s.get? key).map Entry.toValue := by
  rw [Table.get?, Section.toTable, finishFields_eq_map, List.find?_map, Section.get?]
  have hkey : ((fun f : String × Value => f.1 == key) ∘ fun f : String × Entry =>
      (f.1, f.2.toValue)) = fun f => f.1 == key := rfl
  rw [hkey]
  cases s.fields.find? fun f => f.1 == key with
  | none => rfl
  | some f => rfl

theorem Table.get?_set_self {t : Table} {key : String} {v w : Value} (h : t.get? key = some w) :
    (t.set key v).get? key = some v := by
  obtain ⟨f, hf, -⟩ := Option.map_eq_some_iff.mp h
  have hkey : ((fun f : String × Value => f.1 == key) ∘
      fun f => if f.1 = key then (key, v) else f) = fun f => f.1 == key := by
    funext g
    by_cases hg : g.1 = key
    · simp [hg]
    · simp [hg]
  have hself : f.1 = key := by simpa using List.find?_some hf
  rw [Table.get?, Table.set, List.find?_map, hkey, hf]
  simp [hself]

theorem toTable_replace (s : Section) (key : String) (e : Entry) :
    (s.replace key e).toTable = s.toTable.set key e.toValue := by
  rw [Section.toTable, Section.toTable, Section.replace, finishFields_eq_map, finishFields_eq_map,
    Table.set, List.map_map, List.map_map]
  refine List.map_congr_left fun f _ => ?_
  by_cases hf : f.1 = key
  · simp [hf]
  · simp [hf]

end ValidatorKeys.Toml
