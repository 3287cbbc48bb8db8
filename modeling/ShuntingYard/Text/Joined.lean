/-!
# Joined symbols

Symbols become text by being written one after the other, with a separator between every two
neighbours and none at either end.
-/
namespace ShuntingYard.Text

/-- The symbols as text, one character each. -/
def joined (symbols : List Char) : String := String.ofList symbols

/-- The symbols as text, with the separator between neighbours. -/
def joinedWith (separator : String) (symbols : List Char) : String :=
  String.ofList (separator.toList.intercalate (symbols.map fun c => [c]))

@[simp] theorem toList_joined (symbols : List Char) : (joined symbols).toList = symbols := by
  simp [joined]

theorem toList_joinedWith (separator : String) (symbols : List Char) :
    (joinedWith separator symbols).toList =
      separator.toList.intercalate (symbols.map fun c => [c]) := by
  simp [joinedWith]

@[simp] theorem joinedWith_nil (separator : String) : joinedWith separator [] = "" := rfl

@[simp] theorem toList_joinedWith_singleton (separator : String) (c : Char) :
    (joinedWith separator [c]).toList = [c] := by
  simp [toList_joinedWith, List.intercalate]

theorem toList_joinedWith_cons_cons (separator : String) (c d : Char) (l : List Char) :
    (joinedWith separator (c :: d :: l)).toList =
      c :: separator.toList ++ (joinedWith separator (d :: l)).toList := by
  simp [toList_joinedWith, List.intercalate]

end ShuntingYard.Text
