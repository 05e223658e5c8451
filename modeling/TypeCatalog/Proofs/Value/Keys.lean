import TypeCatalog.Ordered
import TypeCatalog.Proofs.Decimal.Quantity
import TypeCatalog.Proofs.Value.Fields

/-! # Values — keys

The key of a mapping is a value that nothing can change: a scalar, or a tuple of such.  What it is
as data says which values it agrees with, numbers being the same across their kinds and moments
across their offsets.  So agreement with a key is an equality, and a mapping with keys behaves as an
ordinary map.

* `Value.datum`: what a key is as data; lists, sets, mappings, annotations and knots are no keys,
  and neither is a float that is not a number.
* `agrees_iff_datum_eq`: by recursion on tuples, what agrees with a key is the same data.
* `IsKey.lookup_put`: what a put at a key does to every look-up.
* `IsTree`: a mapping with keys that are apart, and with values that are such mappings or none.
-/

namespace TypeCatalog

/-- What a moment is, however it is shown: what its own clock shows, if its offset is not known, or
the instant in millionths of a second. -/
inductive Moment.Instant where
  | onClock (m : Moment)
  | universal (microseconds : Int)

def Moment.instant (m : Moment) : Moment.Instant :=
  match m.offset with
  | none   => .onClock m
  | some a => .universal (m.onClock - a * 60000000)

theorem Moment.agrees_iff {m n : Moment} : m.agrees n = true ↔ m.instant = n.instant := by
  simp only [agrees, instant]
  cases m.offset <;> cases n.offset <;> simp

namespace Value

/-! ### Data -/

/-- What keys are as data. -/
inductive Datum where
  | null
  | number (q : Decimal.Quantity)
  | notNumber
  | text (s : String)
  | bytes (bs : List UInt8)
  | date (d : Date)
  | moment (i : Moment.Instant)
  | tuple (items : List Datum)

mutual

/-- What a value is as data, if it is a key. -/
def datum : Value → Option Datum
  | .null      => some .null
  | .bool b    => some (.number (.whole (if b then 1 else 0)))
  | .int i     => some (.number (.whole i))
  | .float x   => (Decimal.quantity? x).map .number
  | .notNumber => some .notNumber
  | .text s    => some (.text s)
  | .bytes bs  => some (.bytes bs)
  | .date d    => some (.date d)
  | .moment m  => some (.moment m.instant)
  | .tuple xs  => (datumEach xs).map .tuple
  | .set _ | .list _ | .dict _ | .nested _ _ _ _ | .knot _ => none

/-- What items are as data, if all of them are keys. -/
def datumEach : List Value → Option (List Datum)
  | []      => some []
  | x :: xs => (datum x).bind fun d => (datumEach xs).map fun ds => d :: ds

end

/-- A value that can be a key. -/
def IsKey (k : Value) : Prop := k.datum ≠ none

theorem map_number_ne_map_tuple {q : Option Decimal.Quantity} {ds : Option (List Datum)}
    (h : q ≠ none ∨ ds ≠ none) : q.map Datum.number ≠ ds.map Datum.tuple := by
  cases q <;> cases ds <;> simp at h ⊢

theorem datumEach_cons_ne_none {x : Value} {xs : List Value} (h : datumEach (x :: xs) ≠ none) :
    x.datum ≠ none ∧ datumEach xs ≠ none := by
  revert h
  rw [datumEach]
  cases x.datum <;> cases datumEach xs <;> simp

theorem datumEach_cons_eq_iff {x y : Value} {xs ys : List Value}
    (h : datumEach (x :: xs) ≠ none ∨ datumEach (y :: ys) ≠ none) :
    datumEach (x :: xs) = datumEach (y :: ys) ↔
      x.datum = y.datum ∧ datumEach xs = datumEach ys := by
  revert h
  rw [datumEach, datumEach]
  cases x.datum <;> cases y.datum <;> cases datumEach xs <;> cases datumEach ys <;> simp

theorem datumEach_cons_ne_nil {x : Value} {xs : List Value} :
    datumEach (x :: xs) ≠ datumEach [] := by
  rw [datumEach, datumEach]
  cases x.datum <;> cases datumEach xs <;> simp

-- Along the recursion of agreement, which goes into tuples.
mutual

/-- **What agrees with a key**, on either side, is what is the same data. -/
theorem agrees_iff_datum_eq (v w : Value) (h : v.IsKey ∨ w.IsKey) :
    v.agrees w = true ↔ v.datum = w.datum := by
  rw [IsKey, IsKey] at h
  cases v with
  | tuple xs =>
      cases w with
      | tuple ys =>
          have each : datumEach xs ≠ none ∨ datumEach ys ≠ none := by simpa [datum] using h
          rw [agrees, agreesEach_iff_datumEach_eq xs ys each, datum, datum]
          exact (Option.map_injective fun _ _ => Datum.tuple.inj).eq_iff.symm
      | float y =>
          have kinds : Decimal.quantity? y ≠ none ∨ datumEach xs ≠ none := by
            simpa [datum, or_comm] using h
          simpa [agrees, scalarAgrees, datum, asInt?] using (map_number_ne_map_tuple kinds).symm
      | _ => simp_all [agrees, scalarAgrees, datum, asInt?]
  | float x =>
      cases w with
      | float y =>
          have number : Decimal.quantity? x ≠ none ∨ Decimal.quantity? y ≠ none := by
            simpa [datum] using h
          have same : (float x).agrees (float y) = Decimal.same x y := by
            simp [agrees, scalarAgrees]
          rw [same, Decimal.same_iff number, datum, datum]
          exact (Option.map_injective fun _ _ => Datum.number.inj).eq_iff.symm
      | tuple ys =>
          have kinds : Decimal.quantity? x ≠ none ∨ datumEach ys ≠ none := by
            simpa [datum] using h
          simpa [agrees, scalarAgrees, datum, asInt?] using map_number_ne_map_tuple kinds
      | _ => simp_all [agrees, scalarAgrees, datum, asInt?, Decimal.isInt_iff]
  | moment m => cases w <;> simp_all [agrees, scalarAgrees, datum, asInt?, Moment.agrees_iff]
  | _ => cases w <;> simp_all [agrees, scalarAgrees, datum, asInt?, Decimal.isInt_iff]

theorem agreesEach_iff_datumEach_eq (xs ys : List Value)
    (h : datumEach xs ≠ none ∨ datumEach ys ≠ none) :
    agreesEach xs ys = true ↔ datumEach xs = datumEach ys := by
  cases xs with
  | nil =>
      cases ys with
      | nil => simp [agreesEach]
      | cons y ys => exact iff_of_false (by simp [agreesEach]) datumEach_cons_ne_nil.symm
  | cons x xs =>
      cases ys with
      | nil => exact iff_of_false (by simp [agreesEach]) datumEach_cons_ne_nil
      | cons y ys =>
          have parts := h.imp datumEach_cons_ne_none datumEach_cons_ne_none
          rw [agreesEach, Bool.and_eq_true, agrees_iff_datum_eq x y (parts.imp And.left And.left),
            agreesEach_iff_datumEach_eq xs ys (parts.imp And.right And.right),
            datumEach_cons_eq_iff h]

end

/-! ### Look-ups -/

section

variable {j k v w : Value} {es : List (Value × Value)}

theorem IsName.isKey (hk : k.IsName) : k.IsKey := by
  cases hk <;> exact Option.some_ne_none _

theorem IsKey.agrees_self (hk : k.IsKey) : k.agrees k = true :=
  (agrees_iff_datum_eq k k (.inl hk)).2 rfl

/-- What agrees with a key is the same data, and so a key. -/
theorem IsKey.datum_eq (hk : k.IsKey) (h : k.agrees j = true) : k.datum = j.datum :=
  (agrees_iff_datum_eq k j (.inl hk)).1 h

theorem IsKey.agrees_comm (hk : k.IsKey) : k.agrees j = j.agrees k := by
  rw [Bool.eq_iff_iff, agrees_iff_datum_eq k j (.inl hk), agrees_iff_datum_eq j k (.inr hk)]
  exact eq_comm

/-- A value agrees with two keys that agree or with neither. -/
theorem IsKey.agrees_congr (hk : k.IsKey) (h : k.agrees j = true) :
    w.agrees k = w.agrees j := by
  have hj : j.IsKey := fun none => hk ((hk.datum_eq h).trans none)
  rw [Bool.eq_iff_iff, agrees_iff_datum_eq w k (.inr hk), agrees_iff_datum_eq w j (.inr hj),
    hk.datum_eq h]

/-- A key is found under what agrees with it. -/
theorem IsKey.lookup_congr (hk : k.IsKey) (h : k.agrees j = true) :
    lookup k es = lookup j es := by
  induction es with
  | nil => rfl
  | cons e es ih => rw [lookup, lookup, hk.agrees_congr h, ih]

/-- **A put at a key** is found under what agrees with it, and changes nothing else. -/
theorem IsKey.lookup_put (hk : k.IsKey) :
    lookup j (put k v es) = if k.agrees j then some v else lookup j es := by
  induction es with
  | nil => rfl
  | cons e es ih =>
      obtain ⟨i, w⟩ := e
      rw [put]
      by_cases hik : i.agrees k = true
      · have same : i.datum = k.datum := (agrees_iff_datum_eq i k (.inr hk)).1 hik
        have both : i.agrees j = k.agrees j := by
          have hi : i.IsKey := fun none => hk (same.symm.trans none)
          rw [Bool.eq_iff_iff, agrees_iff_datum_eq i j (.inl hi),
            agrees_iff_datum_eq k j (.inl hk), same]
        rw [if_pos hik, lookup, lookup, both]
        split <;> rfl
      · rw [if_neg hik, lookup, ih, lookup]
        by_cases hkj : k.agrees j = true
        · rw [if_neg (hk.agrees_congr hkj ▸ hik), if_pos hkj, if_pos hkj]
        · rw [if_neg hkj, if_neg hkj]

/-- To put what is found already changes nothing. -/
theorem put_of_lookup (h : lookup k es = some v) : put k v es = es := by
  induction es with
  | nil => cases h
  | cons e es ih =>
      obtain ⟨i, w⟩ := e
      rw [lookup] at h
      rw [put]
      split at h
      · rw [if_pos ‹_›, Option.some.inj h]
      · rw [if_neg ‹_›, ih h]

/-- None of the keys agrees with `k`. -/
def isNew (keys : List Value) (k : Value) : Bool := keys.all fun j => !j.agrees k

/-- A put leaves the keys that are there, and adds one that is new. -/
theorem keys_put : Entries.keys (put k v es) =
    Entries.keys es ++ if isNew (Entries.keys es) k then [k] else [] := by
  induction es with
  | nil => rfl
  | cons e es ih =>
      obtain ⟨i, w⟩ := e
      change Entries.keys (put k v ((i, w) :: es)) = i :: Entries.keys es ++
        if isNew (i :: Entries.keys es) k then [k] else []
      rw [put, isNew, List.all_cons]
      cases i.agrees k with
      | true => exact (List.append_nil _).symm
      | false => exact congrArg (i :: ·) ih

/-- Where keys are apart, every entry is found. -/
theorem KeysApart.lookup_of_mem (apart : KeysApart es) (keys : ∀ e ∈ es, e.1.IsKey)
    {e : Value × Value} (he : e ∈ es) : lookup e.1 es = some e.2 := by
  induction es with
  | nil => cases he
  | cons f es ih =>
      obtain ⟨first, apart⟩ := List.pairwise_cons.1 apart
      obtain ⟨hf, keys⟩ := List.forall_mem_cons.1 keys
      rw [lookup]
      rcases List.mem_cons.1 he with rfl | he
      · exact if_pos hf.agrees_self
      · rw [if_neg (by rw [first e he]; exact Bool.false_ne_true), ih apart keys he]

end

/-! ### Trees -/

/-- A tree of mappings: in each of them the keys are keys and are apart.  What is no mapping is a
leaf, whatever is in it; a mapping that holds itself is in no tree. -/
inductive IsTree : Value → Prop where
  | dict {es : List (Value × Value)} (keys : ∀ e ∈ es, e.1.IsKey) (apart : KeysApart es)
      (values : ∀ e ∈ es, IsTree e.2) : IsTree (.dict es)
  | leaf {v : Value} (h : v.entries? = none) : IsTree v

theorem IsTree.apart {es : List (Value × Value)} (h : IsTree (.dict es)) : KeysApart es := by
  cases h with
  | dict keys apart values => exact apart
  | leaf h => cases h

theorem IsTree.of_lookup {k v : Value} {es : List (Value × Value)}
    (values : ∀ e ∈ es, IsTree e.2) (h : lookup k es = some v) : IsTree v := by
  obtain ⟨e, he, rfl⟩ := exists_mem_of_lookup h
  exact values e he

/-- Texts are keys, and are apart if they differ. -/
theorem IsTree.ofFields {fields : Entries String Value} (nodup : (Entries.keys fields).Nodup)
    (values : ∀ f ∈ fields, IsTree f.2) : IsTree (.ofFields fields) := by
  refine .dict (List.forall_mem_map.2 fun f _ => ?_) (keysApart_ofFields nodup)
    (List.forall_mem_map.2 values)
  exact Option.some_ne_none _

end Value

end TypeCatalog
