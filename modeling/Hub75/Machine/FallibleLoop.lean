import Mathlib.Data.Vector.Basic

namespace Hub75
namespace Machine

/-!
# Fallible loops that fill consecutive table slots

A computation that can stop with a fault is an `Except` value, and a chain of
such computations succeeds exactly when every part does.  An initialisation
loop of the kind studied here walks a list, produces one entry from each
element and its slot number, and stores the entry in a table of fixed
capacity.  Producing an entry can fail, and so can the bounds check of the
store.

`fillFrom_eq_ok_iff` describes the successful loops completely: what every
slot holds afterwards, which slots were not touched, and that the capacity
sufficed.  It is an equivalence, so the same lemma shows that a loop succeeds
and that a given table is the one a loop would build.  `fillFrom_eq_error_iff` is
its counterpart for a loop that stops.
-/

section

variable {ε α β : Type} {x : Except ε α} {f : α -> Except ε β} {b : β}

/-- A successful sequence has a successful first part. -/
theorem bind_eq_ok : (x >>= f) = .ok b ↔ Exists fun a => x = .ok a ∧ f a = .ok b := by
  cases x with
  | error e =>
      constructor
      · intro impossible
        cases impossible
      · rintro ⟨_, impossible, _⟩
        cases impossible
  | ok a =>
      constructor
      · intro continued
        exact ⟨a, rfl, continued⟩
      · rintro ⟨_, same, continued⟩
        cases same
        exact continued

/-- A sequence fails with the fault of its first part, or of what follows a success. -/
theorem bind_eq_error {e : ε} :
    (x >>= f) = .error e ↔ x = .error e ∨ Exists fun a => x = .ok a ∧ f a = .error e := by
  cases x with
  | error other =>
      constructor
      · intro failed
        cases failed
        exact Or.inl rfl
      · rintro (same | ⟨_, impossible, _⟩)
        · cases same
          rfl
        · cases impossible
  | ok a =>
      constructor
      · intro continued
        exact Or.inr ⟨a, rfl, continued⟩
      · rintro (impossible | ⟨_, same, continued⟩)
        · cases impossible
        · cases same
          exact continued

theorem bind_of_eq_ok {a : α} (succeeded : x = .ok a) : (x >>= f) = f a := by
  rw [succeeded]
  rfl

end

variable {ε α β : Type} {capacity : Nat}

/-- Tables are equal when all their slots are. -/
theorem table_ext {first second : Vector β capacity}
    (same : forall i : Nat, first[i]? = second[i]?) : first = second := by
  apply Vector.ext
  intro i inside
  have slot := same i
  rw [Vector.getElem?_eq_getElem inside, Vector.getElem?_eq_getElem inside] at slot
  exact Option.some.inj slot

/-- A store with its bounds check. -/
def storeAt (outOfBounds : Nat -> ε) (table : Vector β capacity) (slot : Nat) (entry : β) :
    Except ε (Vector β capacity) :=
  if inside : slot < capacity then .ok (table.set slot entry) else .error (outOfBounds slot)

theorem storeAt_eq_ok_iff {outOfBounds : Nat -> ε} {table result : Vector β capacity} {slot : Nat}
    {entry : β} :
    storeAt outOfBounds table slot entry = .ok result ↔
      Exists fun inside : slot < capacity => table.set slot entry = result := by
  unfold storeAt
  by_cases inside : slot < capacity
  · rw [dif_pos inside]
    constructor
    · exact fun same => ⟨inside, Except.ok.inj same⟩
    · exact fun stored => congrArg Except.ok stored.2
  · rw [dif_neg inside]
    constructor
    · intro impossible
      cases impossible
    · exact fun stored => absurd stored.1 inside

/-- Produce an entry from each element and store the entries one after the
other, starting at `slot`. -/
def fillFrom (outOfBounds : Nat -> ε) (produce : Nat -> α -> Except ε β) :
    List α -> Nat -> Vector β capacity -> Except ε (Vector β capacity)
  | [], _, table => .ok table
  | element :: rest, slot, table => do
      let entry ← produce slot element
      let table ← storeAt outOfBounds table slot entry
      fillFrom outOfBounds produce rest (slot + 1) table

variable {outOfBounds : Nat -> ε} {produce : Nat -> α -> Except ε β}

theorem fillFrom_cons_eq_ok {element : α} {rest : List α} {slot : Nat}
    {table result : Vector β capacity} :
    fillFrom outOfBounds produce (element :: rest) slot table = .ok result ↔
      Exists fun entry => produce slot element = .ok entry ∧
        Exists fun inside : slot < capacity =>
          fillFrom outOfBounds produce rest (slot + 1) (table.set slot entry) = .ok result := by
  simp only [fillFrom, bind_eq_ok, storeAt_eq_ok_iff]
  constructor
  · rintro ⟨entry, produced, stored, ⟨inside, same⟩, continued⟩
    subst same
    exact ⟨entry, produced, inside, continued⟩
  · rintro ⟨entry, produced, inside, continued⟩
    exact ⟨entry, produced, _, ⟨inside, rfl⟩, continued⟩

/-- A fill succeeds when every entry can be produced and there is room. -/
theorem fillFrom_ok {elements : List α} {slot : Nat} (table : Vector β capacity)
    (room : slot + elements.length ≤ capacity)
    (produces : forall j element, elements[j]? = some element ->
      Exists fun entry => produce (slot + j) element = .ok entry) :
    Exists fun result => fillFrom outOfBounds produce elements slot table = .ok result := by
  induction elements generalizing slot table with
  | nil => exact ⟨table, rfl⟩
  | cons element rest inductionHypothesis =>
      rw [List.length_cons] at room
      have inside : slot < capacity := by omega
      rcases produces 0 element rfl with ⟨entry, produced⟩
      have rest_produces : forall j other, rest[j]? = some other ->
          Exists fun entry => produce (slot + 1 + j) other = .ok entry := by
        intro j other found
        have reindex : slot + 1 + j = slot + (j + 1) := by omega
        rw [reindex]
        exact produces (j + 1) other found
      rcases inductionHypothesis (table.set slot entry) (by omega) rest_produces with
        ⟨result, continued⟩
      exact ⟨result, fillFrom_cons_eq_ok.mpr ⟨entry, produced, inside, continued⟩⟩

/-- The whole effect of a successful fill.  The first condition is needed
only for a list that has elements: an empty loop makes no store. -/
theorem fillFrom_eq_ok_iff {elements : List α} {slot : Nat} {table result : Vector β capacity} :
    fillFrom outOfBounds produce elements slot table = .ok result ↔
      (elements = [] ∨ slot + elements.length ≤ capacity) ∧
      (forall j element, elements[j]? = some element ->
        Exists fun entry => produce (slot + j) element = .ok entry ∧
          result[slot + j]? = some entry) ∧
      (forall i, i < slot ∨ slot + elements.length ≤ i -> result[i]? = table[i]?) := by
  induction elements generalizing slot table with
  | nil =>
      constructor
      · intro done
        cases done
        exact ⟨Or.inl rfl, fun j element impossible => by simp at impossible, fun _ _ => rfl⟩
      · rintro ⟨_, _, untouched⟩
        refine congrArg Except.ok (table_ext fun i => (untouched i ?_).symm)
        simp only [List.length_nil]
        omega
  | cons element rest inductionHypothesis =>
      rw [fillFrom_cons_eq_ok]
      constructor
      · rintro ⟨entry, produced, inside, continued⟩
        rcases inductionHypothesis.mp continued with ⟨fits, stored, untouched⟩
        refine ⟨Or.inr ?_, fun j other found => ?_, fun i outside => ?_⟩
        · rcases fits with empty | fits
          · subst empty
            exact inside
          · rw [List.length_cons]
            omega
        · cases j with
          | zero =>
              cases found
              refine ⟨entry, produced, ?_⟩
              rw [Nat.add_zero, untouched slot (Or.inl (Nat.lt_succ_self slot)),
                Vector.getElem?_set_self inside]
          | succ j =>
              have reindex : slot + (j + 1) = slot + 1 + j := by omega
              rw [reindex]
              exact stored j other found
        · have elsewhere : slot ≠ i := by
            rcases outside with before | beyond
            · exact Nat.ne_of_gt before
            · simp only [List.length_cons] at beyond
              omega
          have rest_outside : i < slot + 1 ∨ slot + 1 + rest.length ≤ i := by
            simp only [List.length_cons] at outside
            omega
          rw [untouched i rest_outside, Vector.getElem?_set_ne inside elsewhere]
      · rintro ⟨fits, stored, untouched⟩
        have room : slot + (rest.length + 1) ≤ capacity := by simpa using fits
        have inside : slot < capacity := by omega
        rcases stored 0 element rfl with ⟨entry, produced, first⟩
        refine ⟨entry, produced, inside, inductionHypothesis.mpr ⟨Or.inr (by omega), ?_, ?_⟩⟩
        · intro j other found
          have reindex : slot + 1 + j = slot + (j + 1) := by omega
          rw [reindex]
          exact stored (j + 1) other found
        · intro i outside
          by_cases same : slot = i
          · subst same
            rw [Vector.getElem?_set_self inside]
            exact first
          · rw [Vector.getElem?_set_ne inside same]
            apply untouched i
            simp only [List.length_cons]
            omega

/-! ## Failing loops -/

/-- `place` is the first of `count` places where something is wrong. -/
structure FirstFault (faulty : Nat -> ε -> Prop) (count place : Nat) (e : ε) : Prop where
  inside : place < count
  fault : faulty place e
  earlier : forall j, j < place -> forall other, ¬ faulty j other

/-- Where faults are the same, the first one is. -/
theorem FirstFault.congr {faulty other : Nat -> ε -> Prop} {count place : Nat} {e : ε}
    (agree : forall j, j < count -> forall e, faulty j e ↔ other j e) :
    FirstFault faulty count place e ↔ FirstFault other count place e := by
  constructor
  · rintro ⟨inside, fault, earlier⟩
    refine ⟨inside, (agree place inside e).mp fault, fun j before e found => ?_⟩
    exact earlier j before e ((agree j (Nat.lt_trans before inside) e).mpr found)
  · rintro ⟨inside, fault, earlier⟩
    refine ⟨inside, (agree place inside e).mpr fault, fun j before e found => ?_⟩
    exact earlier j before e ((agree j (Nat.lt_trans before inside) e).mp found)

/-- The first of one place and the places after it. -/
theorem FirstFault.exists_succ_iff {faulty : Nat -> ε -> Prop} {count : Nat} {e : ε} :
    (Exists fun place => FirstFault faulty (count + 1) place e) ↔
      faulty 0 e ∨ (forall other, ¬ faulty 0 other) ∧
        Exists fun place => FirstFault (fun j => faulty (j + 1)) count place e := by
  constructor
  · rintro ⟨place, inside, fault, earlier⟩
    cases place with
    | zero => exact Or.inl fault
    | succ place =>
        refine Or.inr ⟨earlier 0 (Nat.succ_pos place), place, ?_, fault, fun j before => ?_⟩
        · exact Nat.lt_of_succ_lt_succ inside
        · exact earlier (j + 1) (Nat.succ_lt_succ before)
  · rintro (fault | ⟨none, place, inside, fault, earlier⟩)
    · refine ⟨0, Nat.succ_pos count, fault, fun j impossible => ?_⟩
      exact absurd impossible (Nat.not_lt_zero j)
    · refine ⟨place + 1, Nat.succ_lt_succ inside, fault, fun j before => ?_⟩
      cases j with
      | zero => exact none
      | succ j => exact earlier j (Nat.lt_of_succ_lt_succ before)

/-- The element at `place` has no entry. -/
def Unproducible (produce : Nat -> α -> Except ε β) (elements : List α) (slot place : Nat) (e : ε) :
    Prop :=
  Exists fun element => elements[place]? = some element ∧
    produce (slot + place) element = .error e

theorem unproducible_zero {element : α} {rest : List α} {slot : Nat} {e : ε} :
    Unproducible produce (element :: rest) slot 0 e ↔ produce slot element = .error e := by
  constructor
  · rintro ⟨other, same, refused⟩
    cases same
    exact refused
  · exact fun refused => ⟨element, rfl, refused⟩

theorem unproducible_succ {element : α} {rest : List α} {slot : Nat} :
    (fun place => Unproducible produce (element :: rest) slot (place + 1)) =
      Unproducible produce rest (slot + 1) := by
  funext place e
  have reindex : slot + (place + 1) = slot + 1 + place := by omega
  unfold Unproducible
  rw [reindex]
  rfl

/-- With room for all entries, a fill fails at the first element that has none, with the
fault of that element. -/
theorem fillFrom_eq_error_iff {elements : List α} {slot : Nat} {table : Vector β capacity} {e : ε}
    (room : slot + elements.length ≤ capacity) :
    fillFrom outOfBounds produce elements slot table = .error e ↔
      Exists fun place =>
        FirstFault (Unproducible produce elements slot) elements.length place e := by
  induction elements generalizing slot table with
  | nil =>
      refine iff_of_false (fun impossible => by cases impossible) ?_
      rintro ⟨place, inside, _⟩
      exact Nat.not_lt_zero place inside
  | cons element rest inductionHypothesis =>
      rw [List.length_cons] at room
      have inside : slot < capacity := by omega
      rw [List.length_cons, FirstFault.exists_succ_iff, unproducible_zero, unproducible_succ]
      cases produced : produce slot element with
      | error other =>
          have failed : fillFrom outOfBounds produce (element :: rest) slot table = .error other := by
            rw [fillFrom, produced]
            rfl
          rw [failed, Except.error.injEq, Except.error.injEq]
          refine (or_iff_left ?_).symm
          rintro ⟨accepted, _⟩
          exact accepted other (unproducible_zero.mpr produced)
      | ok entry =>
          have continues : fillFrom outOfBounds produce (element :: rest) slot table =
              fillFrom outOfBounds produce rest (slot + 1) (table.set slot entry) := by
            rw [fillFrom, produced]
            exact bind_of_eq_ok (storeAt_eq_ok_iff.mpr ⟨inside, rfl⟩)
          have accepted : forall other, ¬ Unproducible produce (element :: rest) slot 0 other := by
            intro other refused
            cases produced.symm.trans (unproducible_zero.mp refused)
          rw [continues, inductionHypothesis (by omega)]
          constructor
          · exact fun later => Or.inr ⟨accepted, later⟩
          · rintro (impossible | ⟨_, later⟩)
            · cases impossible
            · exact later

/-- A loop through an initial range of the numbers. -/
theorem fillFrom_range_eq_error_iff {produce : Nat -> Nat -> Except ε β} {count : Nat}
    {table : Vector β capacity} {e : ε} (room : count ≤ capacity) :
    fillFrom outOfBounds produce (List.range count) 0 table = .error e ↔
      Exists fun place => FirstFault (fun i e => produce i i = .error e) count place e := by
  have fits : 0 + (List.range count).length ≤ capacity := by
    rw [List.length_range, Nat.zero_add]
    exact room
  rw [fillFrom_eq_error_iff fits, List.length_range]
  apply exists_congr
  intro place
  apply FirstFault.congr
  intro i inside e
  unfold Unproducible
  rw [List.getElem?_range inside, Nat.zero_add]
  constructor
  · rintro ⟨element, same, refused⟩
    cases same
    exact refused
  · exact fun refused => ⟨i, rfl, refused⟩

/-! ## Nested loops

The same loop with an inner counter: every element is stored several times, and
an element may occur no time at all.  The slot runs through both loops. -/

/-- The inner loop. -/
def fillTimes (outOfBounds : Nat -> ε) (produce : Nat -> α -> Except ε β) (element : α) :
    Nat -> Nat -> Vector β capacity -> Except ε (Vector β capacity × Nat)
  | 0, slot, table => .ok (table, slot)
  | times + 1, slot, table => do
      let entry ← produce slot element
      let table ← storeAt outOfBounds table slot entry
      fillTimes outOfBounds produce element times (slot + 1) table

/-- The outer loop; `times` says how often an element is stored. -/
def fillGroups (outOfBounds : Nat -> ε) (times : α -> Nat) (produce : Nat -> α -> Except ε β) :
    List α -> Nat -> Vector β capacity -> Except ε (Vector β capacity)
  | [], _, table => .ok table
  | element :: rest, slot, table => do
      let (table, slot) ← fillTimes outOfBounds produce element (times element) slot table
      fillGroups outOfBounds times produce rest slot table

/-- An inner loop followed by a flat loop is one flat loop. -/
theorem fillTimes_then_fillFrom (element : α) (count : Nat) (rest : List α) (slot : Nat)
    (table : Vector β capacity) :
    (fillTimes outOfBounds produce element count slot table >>= fun reached =>
        fillFrom outOfBounds produce rest reached.2 reached.1) =
      fillFrom outOfBounds produce (List.replicate count element ++ rest) slot table := by
  induction count generalizing slot table with
  | zero => rfl
  | succ count inductionHypothesis =>
      rw [List.replicate_succ, List.cons_append]
      simp only [fillTimes, fillFrom]
      cases produce slot element with
      | error e => rfl
      | ok entry =>
          change (storeAt outOfBounds table slot entry >>= _) >>= _ =
            storeAt outOfBounds table slot entry >>= _
          cases storeAt outOfBounds table slot entry with
          | error e => rfl
          | ok stored => exact inductionHypothesis (slot + 1) stored

/-- The nested loop stores what the flat loop stores over the elements written
out with their multiplicities. -/
theorem fillGroups_eq_fillFrom (times : α -> Nat) (elements : List α) (slot : Nat)
    (table : Vector β capacity) :
    fillGroups outOfBounds times produce elements slot table =
      fillFrom outOfBounds produce
        (elements.flatMap fun element => List.replicate (times element) element) slot table := by
  induction elements generalizing slot table with
  | nil => rfl
  | cons element rest inductionHypothesis =>
      rw [List.flatMap_cons, ← fillTimes_then_fillFrom]
      simp only [fillGroups, inductionHypothesis]

end Machine
end Hub75
