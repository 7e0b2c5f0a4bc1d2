import Mathlib.Tactic.SplitIfs
import SlotDispatch.Builtin.Text
/-!
The encoding of texts in UTF-8. The main statement says that the order of texts by code points is the
order of their bytes.
-/

namespace SlotDispatch.Text

/-- These are the bytes of a text in UTF-8. -/
def bytes (content : String) : List UInt8 :=
  content.toUTF8.data.toList

theorem bytes_eq_flatMap (content : String) :
    bytes content = content.toList.flatMap String.utf8EncodeChar := by
  rw [bytes, String.toUTF8, ← String.utf8Encode_toList, List.utf8Encode,
    List.toList_data_toByteArray]

/-! ### The order of bytes -/

theorem compare_cons (left right : UInt8) (lefts rights : List UInt8) :
    Ord.compare (left :: lefts) (right :: rights) =
      (Ord.compare left right).then (Ord.compare lefts rights) :=
  List.compareLex_cons_cons

theorem compare_cons_eq_lt_iff {left right : Nat} (isLeft : left < 256) (isRight : right < 256)
    (lefts rights : List UInt8) :
    Ord.compare (UInt8.ofNat left :: lefts) (UInt8.ofNat right :: rights) = .lt ↔
      left < right ∨ left = right ∧ Ord.compare lefts rights = .lt := by
  rw [compare_cons, Ordering.then_eq_lt, Std.compare_eq_lt, Std.compare_eq_iff_eq,
    UInt8.ofNat_lt_iff_lt isLeft isRight]
  have isInjective : UInt8.ofNat left = UInt8.ofNat right ↔ left = right := by
    rw [← UInt8.toNat_inj, UInt8.toNat_ofNat_of_lt' isLeft, UInt8.toNat_ofNat_of_lt' isRight]
  rw [isInjective]

/-- Bytes in common do not decide an order. -/
theorem compare_append_left (common lefts rights : List UInt8) :
    Ord.compare (common ++ lefts) (common ++ rights) = Ord.compare lefts rights := by
  induction common with
  | nil => rfl
  | cons byte rest inductionHypothesis =>
      rw [List.cons_append, List.cons_append, compare_cons, Std.ReflOrd.compare_self,
        Ordering.eq_then, inductionHypothesis]

/-- The encoding of a smaller code point is smaller, whatever follows. The first bytes tell encodings of
different lengths apart. -/
theorem compare_encoding_of_lt {left right : Char} (isLess : left.toNat < right.toNat)
    (lefts rights : List UInt8) :
    Ord.compare (String.utf8EncodeChar left ++ lefts) (String.utf8EncodeChar right ++ rights) =
      .lt := by
  have isPoint : right.toNat < 0x110000 := by
    rcases right.valid with isLow | ⟨_, isHigh⟩
    · exact Nat.lt_trans isLow (by decide)
    · exact isHigh
  simp only [String.utf8EncodeChar]
  change left.val.toNat < right.val.toNat at isLess
  change right.val.toNat < 0x110000 at isPoint
  generalize left.val.toNat = leftPoint at isLess ⊢
  generalize right.val.toNat = rightPoint at isLess isPoint ⊢
  have isThird : ∀ point : Nat, point / 4096 = point / 64 / 64 := fun point => by
    rw [Nat.div_div_eq_div_mul]
  have isFourth : ∀ point : Nat, point / 262144 = point / 64 / 64 / 64 := fun point => by
    rw [Nat.div_div_eq_div_mul, Nat.div_div_eq_div_mul]
  simp only [isThird, isFourth]
  split_ifs
  all_goals
    simp only [List.cons_append, List.nil_append]
    repeat rw [compare_cons_eq_lt_iff (by omega) (by omega)]
    omega

/-- The bytes of two lists of characters are ordered as their code points. -/
theorem compare_encodings (lefts rights : List Char) :
    Ord.compare (lefts.flatMap String.utf8EncodeChar) (rights.flatMap String.utf8EncodeChar) =
      Ord.compare (lefts.map Char.toNat) (rights.map Char.toNat) := by
  induction lefts generalizing rights with
  | nil =>
      cases rights with
      | nil => rfl
      | cons right rights =>
          obtain ⟨byte, rest, isEncoding⟩ :=
            List.exists_cons_of_ne_nil (String.utf8EncodeChar_ne_nil (c := right))
          rw [List.flatMap_cons, isEncoding]
          exact List.compareLex_nil_cons.trans List.compareLex_nil_cons.symm
  | cons left lefts inductionHypothesis =>
      cases rights with
      | nil =>
          obtain ⟨byte, rest, isEncoding⟩ :=
            List.exists_cons_of_ne_nil (String.utf8EncodeChar_ne_nil (c := left))
          rw [List.flatMap_cons, isEncoding]
          exact List.compareLex_cons_nil.trans List.compareLex_cons_nil.symm
      | cons right rights =>
          rw [List.flatMap_cons, List.flatMap_cons, List.map_cons, List.map_cons]
          change _ = List.compareLex _ _ _
          rw [List.compareLex_cons_cons]
          rcases Nat.lt_trichotomy left.toNat right.toNat with isLess | isSame | isGreater
          · rw [compare_encoding_of_lt isLess, Nat.compare_eq_lt.2 isLess, Ordering.lt_then]
          · obtain rfl := Char.toNat_inj.1 isSame
            rw [compare_append_left, inductionHypothesis, Std.ReflOrd.compare_self, Ordering.eq_then]
            rfl
          · rw [Std.OrientedOrd.eq_swap, compare_encoding_of_lt isGreater, Nat.compare_eq_gt.2 isGreater]
            rfl

theorem order_eq_compare_bytes (left right : String) :
    Builtin.Text.order left right = Ord.compare (bytes left) (bytes right) := by
  rw [bytes_eq_flatMap, bytes_eq_flatMap, compare_encodings, Builtin.Text.order]

end SlotDispatch.Text
