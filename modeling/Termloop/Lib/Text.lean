import Mathlib.Data.List.TakeWhile
import Mathlib.Data.String.Basic

/-!
Character classes of Unicode as the standard library decides them, and text without the
white space at its ends.
-/
namespace TermloopText
open List
variable {text : String}

def isControl (c : Char) : Bool :=
  c.val < 0x20 || (0x7f ≤ c.val && c.val ≤ 0x9f)

def isWhitespace (c : Char) : Bool :=
  (0x9 ≤ c.val && c.val ≤ 0xd) || c.val == 0x20 || c.val == 0x85 || c.val == 0xa0
    || c.val == 0x1680 || (0x2000 ≤ c.val && c.val ≤ 0x200a) || c.val == 0x2028
    || c.val == 0x2029 || c.val == 0x202f || c.val == 0x205f || c.val == 0x3000

def isBlank (value : String) : Bool := value.toList.all isWhitespace

def trim (value : String) : String :=
  String.ofList ((value.toList.dropWhile isWhitespace).reverse.dropWhile isWhitespace).reverse

theorem isBlank_append : isBlank (a ++ b) = (isBlank a && isBlank b) := by
  rw [isBlank, String.toList_append, all_append]
  rfl

theorem toList_trim : (trim text).toList =
    ((text.toList.dropWhile isWhitespace).reverse.dropWhile isWhitespace).reverse :=
  String.toList_ofList

theorem trim_nonblank (kept : (trim text).isEmpty = false) : isBlank (trim text) = false := by
  have shape := @toList_trim text
  have some_left : (text.toList.dropWhile isWhitespace).reverse.dropWhile isWhitespace ≠ [] := by
    intro nothing
    rw [nothing, reverse_nil] at shape
    rw [String.isEmpty_iff.mpr (String.toList_eq_nil_iff.mp shape)] at kept
    cases kept
  have first := head_dropWhile_not isWhitespace some_left
  rw [isBlank, shape, all_reverse]
  apply all_eq_false.mpr
  exact ⟨_,head_mem some_left,by simp [first]⟩

theorem trim_isPrefix (text : String) :
    (trim text).toList <+: text.toList.dropWhile isWhitespace := by
  rw [toList_trim, ← reverse_suffix, reverse_reverse]
  exact dropWhile_suffix isWhitespace

theorem trim_size (text : String) : (trim text).utf8ByteSize ≤ text.utf8ByteSize := by
  have shorter := String.utf8Len_le_of_sublist
    ((trim_isPrefix text).sublist.trans (dropWhile_sublist isWhitespace))
  rwa [← String.utf8ByteSize_ofList, ← String.utf8ByteSize_ofList, String.ofList_toList,
    String.ofList_toList] at shorter

theorem trim_of_nonblank (nonblank : isBlank text = false) : isBlank (trim text) = false := by
  apply trim_nonblank
  by_contra empty
  rw [Bool.not_eq_false, String.isEmpty_iff, ← String.toList_eq_nil_iff, toList_trim,
    reverse_eq_nil_iff, dropWhile_eq_nil_iff] at empty
  have kept : text.toList.dropWhile isWhitespace ≠ [] := by
    rw [Ne, dropWhile_eq_nil_iff]
    intro blank
    rw [isBlank, all_eq_false] at nonblank
    obtain ⟨c,here,visible⟩ := nonblank
    exact visible (blank c here)
  have first := head_dropWhile_not isWhitespace kept
  have white := empty _ (mem_reverse.mpr (head_mem kept))
  rw [first] at white
  cases white

theorem trim_head (shape : (trim text).toList = c :: rest) : isWhitespace c = false := by
  have front := trim_isPrefix text
  rw [shape] at front
  obtain ⟨more,whole⟩ := front
  have kept : text.toList.dropWhile isWhitespace ≠ [] := by
    rw [← whole]
    exact cons_ne_nil _ _
  have first := head_dropWhile_not isWhitespace kept
  simpa [← whole] using first

end TermloopText
