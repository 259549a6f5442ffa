namespace CredentialPolicy.Text

/-- The Unicode property White_Space, which is more than white space in ASCII. -/
def isBlankChar (c : Char) : Bool :=
  let n := c.toNat
  (9 ≤ n && n ≤ 13) || n = 0x20 || n = 0x85 || n = 0xA0 || n = 0x1680 ||
    (0x2000 ≤ n && n ≤ 0x200A) || n = 0x2028 || n = 0x2029 || n = 0x202F || n = 0x205F ||
    n = 0x3000

def isBlank (text : String) : Bool :=
  text.toList.all isBlankChar

def trim (text : String) : String :=
  String.ofList ((text.toList.dropWhile isBlankChar).reverse.dropWhile isBlankChar).reverse

theorem isBlank_append_eq_false {start : String} (h : isBlank start = false) (rest : String) :
    isBlank (start ++ rest) = false := by
  unfold isBlank at h ⊢
  rw [String.toList_append, List.all_append, h, Bool.false_and]

end CredentialPolicy.Text
