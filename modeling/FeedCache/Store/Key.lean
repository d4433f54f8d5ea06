/-
This file orders the keys of stored rows.
-/
import FeedCache.Text.Bytes

namespace FeedCache.Store

/-- A key is a text, or a blob that another program has written. -/
inductive Key where
  | text (value : String)
  | blob (value : ByteArray)
  deriving DecidableEq

/-- The bytes by which keys are ordered: all texts come before all blobs. -/
def Key.code : Key → List UInt8
  | .text value => 0 :: value.toByteArray.data.toList
  | .blob value => 1 :: value.data.toList

theorem Key.codeInjective {first second : Key} (same : first.code = second.code) :
    first = second := by
  cases first <;> cases second <;> simp only [Key.code, List.cons.injEq] at same
  · have bytes := ByteArray.ext (Array.toList_inj.1 same.2)
    rw [String.toByteArray_inj.1 bytes]
  · exact absurd same.1 (by decide)
  · exact absurd same.1 (by decide)
  · rw [ByteArray.ext (Array.toList_inj.1 same.2)]

instance : LT Key := ⟨fun first second => first.code < second.code⟩

instance (first second : Key) : Decidable (first < second) :=
  inferInstanceAs (Decidable (first.code < second.code))

theorem Key.ltIrrefl (key : Key) : ¬ key < key := List.lt_irrefl key.code

theorem Key.ltTrans {first second third : Key} (left : first < second) (right : second < third) :
    first < third := List.lt_trans left right

/-- Of two different keys one comes first. -/
theorem Key.ltOfNotLt {first second : Key} (different : first ≠ second)
    (notBefore : ¬ first < second) : second < first := by
  apply Decidable.byContradiction
  intro notAfter
  exact different (Key.codeInjective (List.le_antisymm (List.not_lt.1 notAfter)
    (List.not_lt.1 notBefore)))

end FeedCache.Store
