import ShuntingYard.Text.Builder

/-!
# Joining is exact

A joined text is the first symbol and then, for each further one, a block of the separator and the
symbol, all of one length. Without its first blocks it is the joined text of the symbols that are
left, and so a symbol is found by its position alone, even where the separator looks like symbols.
The bytes in the buffer are at all times those of such a text, so that reading them cannot fail.
-/
namespace ShuntingYard.Text

variable {separator : String} {symbols : List Char}

section Blocks

/-- Symbols that come after another one, each in a block with the separator before it. -/
def blocks (separator : String) (symbols : List Char) : List Char :=
  symbols.flatMap fun c => separator.toList ++ [c]

@[simp] theorem blocks_nil (separator : String) : blocks separator [] = [] := rfl

theorem blocks_cons (separator : String) (c : Char) (symbols : List Char) :
    blocks separator (c :: symbols) = (separator.toList ++ [c]) ++ blocks separator symbols := rfl

theorem length_blocks (separator : String) (symbols : List Char) :
    (blocks separator symbols).length = symbols.length * (separator.length + 1) := by
  induction symbols with
  | nil => simp
  | cons c symbols ih =>
    rw [blocks_cons, List.length_append, List.length_append, ih, String.length_toList,
      List.length_singleton, List.length_cons, Nat.succ_mul, Nat.add_comm]

theorem toList_joinedWith_cons (separator : String) (c : Char) (symbols : List Char) :
    (joinedWith separator (c :: symbols)).toList = c :: blocks separator symbols := by
  induction symbols generalizing c with
  | nil => rw [toList_joinedWith_singleton, blocks_nil]
  | cons d symbols ih => rw [toList_joinedWith_cons_cons, ih, blocks_cons]; simp

theorem length_joinedWith (separator : String) (symbols : List Char) :
    (joinedWith separator symbols).length =
      symbols.length + (symbols.length - 1) * separator.length := by
  cases symbols with
  | nil => simp
  | cons c symbols =>
    rw [← String.length_toList, toList_joinedWith_cons, List.length_cons, List.length_cons,
      length_blocks, Nat.add_sub_cancel, Nat.mul_add, Nat.mul_one]
    omega

/-- Without its first blocks, a joined text is that of the symbols that are left. -/
theorem drop_toList_joinedWith (separator : String) (symbols : List Char) (i : Nat) :
    (joinedWith separator symbols).toList.drop (i * (separator.length + 1)) =
      (joinedWith separator (symbols.drop i)).toList := by
  induction i generalizing symbols with
  | zero => rw [Nat.zero_mul, List.drop_zero, List.drop_zero]
  | succ i ih =>
    have hblock : (joinedWith separator symbols).toList.drop (separator.length + 1) =
        (joinedWith separator (symbols.drop 1)).toList := by
      match symbols with
      | [] => rfl
      | [c] => simp
      | c :: d :: symbols =>
        rw [toList_joinedWith_cons_cons, List.cons_append, List.drop_succ_cons,
          ← String.length_toList, List.drop_left, List.drop_succ_cons, List.drop_zero]
    rw [Nat.succ_mul, Nat.add_comm, ← List.drop_drop, hblock, ih, List.drop_drop, Nat.add_comm]

theorem head?_toList_joinedWith (separator : String) (symbols : List Char) :
    (joinedWith separator symbols).toList.head? = symbols.head? := by
  cases symbols with
  | nil => rfl
  | cons c symbols => rw [toList_joinedWith_cons, List.head?_cons, List.head?_cons]

theorem getElem?_toList_joinedWith (separator : String) (symbols : List Char) (i : Nat) :
    (joinedWith separator symbols).toList[i * (separator.length + 1)]? = symbols[i]? := by
  rw [← List.head?_drop, drop_toList_joinedWith, head?_toList_joinedWith, List.head?_drop]

theorem take_drop_toList_joinedWith (separator : String) {i : Nat} (h : i + 1 < symbols.length) :
    ((joinedWith separator symbols).toList.drop (i * (separator.length + 1) + 1)).take
      separator.length = separator.toList := by
  have hrest : symbols.drop i = symbols[i] :: symbols[i + 1] :: symbols.drop (i + 2) := by
    rw [List.drop_eq_getElem_cons (by omega), List.drop_eq_getElem_cons h]
  rw [← List.drop_drop, drop_toList_joinedWith, hrest, toList_joinedWith_cons_cons,
    List.cons_append, List.drop_succ_cons, List.drop_zero, ← String.length_toList, List.take_left]

theorem getLast?_toList_joinedWith (separator : String) (symbols : List Char) :
    (joinedWith separator symbols).toList.getLast? = symbols.getLast? := by
  have hlast : (joinedWith separator symbols).toList.length - 1 =
      (symbols.length - 1) * (separator.length + 1) := by
    rw [String.length_toList, length_joinedWith, Nat.mul_add, Nat.mul_one]
    cases symbols with
    | nil => simp
    | cons c symbols =>
      rw [List.length_cons]
      omega
  rw [List.getLast?_eq_getElem?, hlast, getElem?_toList_joinedWith, ← List.getLast?_eq_getElem?]

theorem joinedWith_empty (symbols : List Char) : joinedWith "" symbols = joined symbols := by
  rw [← String.toList_inj, toList_joined]
  cases symbols with
  | nil => rfl
  | cons c symbols =>
    rw [toList_joinedWith_cons]
    simp [blocks]

end Blocks

section Reading

def everyNth {α : Type} (step : Nat) (l : List α) : List α :=
  (List.range l.length).filterMap fun i => l[i * step]?

theorem filterMap_getElem?_range {α : Type} (l : List α) {n : Nat} (h : l.length ≤ n) :
    (List.range n).filterMap (fun i => l[i]?) = l := by
  induction l generalizing n with
  | nil => simp
  | cons a l ih =>
    cases n with
    | zero => cases h
    | succ n =>
      rw [List.range_succ_eq_map, List.filterMap_cons_some List.getElem?_cons_zero,
        List.filterMap_map]
      exact congrArg (a :: ·) (ih (Nat.le_of_succ_le_succ h))

theorem everyNth_toList_joinedWith (separator : String) (symbols : List Char) :
    everyNth (separator.length + 1) (joinedWith separator symbols).toList = symbols := by
  have hlength : symbols.length ≤ (joinedWith separator symbols).toList.length := by
    rw [String.length_toList, length_joinedWith]
    omega
  simp only [everyNth, getElem?_toList_joinedWith]
  exact filterMap_getElem?_range symbols hlength

theorem joinedWith_injective (separator : String) : Function.Injective (joinedWith separator) := by
  intro symbols symbols' h
  rw [← everyNth_toList_joinedWith separator symbols, h, everyNth_toList_joinedWith]

end Reading

namespace Builder

variable {β : Type} {b : Builder β} {bytes : β → ByteArray}

theorem HoldsUTF8.foldl_write (h : b.HoldsUTF8 bytes) (separator : String) (symbols : List Char)
    (buffer : β) {i : Nat} (hi : 0 < i) :
    bytes ((symbols.zipIdx i).foldl (b.write separator) buffer) =
      bytes buffer ++ (blocks separator symbols).utf8Encode := by
  induction symbols generalizing buffer i with
  | nil =>
    rw [blocks_nil, List.utf8Encode_nil, ByteArray.append_empty]
    rfl
  | cons c symbols ih =>
    have hwrite : bytes (b.write separator buffer (c, i)) =
        bytes buffer ++ (separator.toList ++ [c]).utf8Encode := by
      rw [write, if_pos hi, h.push, h.append, ByteArray.append_assoc, List.utf8Encode_append,
        String.utf8Encode_toList, String.toByteArray_singleton]
    rw [List.zipIdx_cons, List.foldl_cons, ih _ (Nat.succ_pos i), hwrite, ByteArray.append_assoc,
      ← List.utf8Encode_append, blocks_cons]

theorem HoldsUTF8.bytes_foldl_write (h : b.HoldsUTF8 bytes) (separator : String)
    (symbols : List Char) (capacity : Nat) :
    bytes (symbols.zipIdx.foldl (b.write separator) (b.create capacity)) =
      (joinedWith separator symbols).toByteArray := by
  cases symbols with
  | nil => exact h.create capacity
  | cons c symbols =>
    have hwrite : bytes (b.write separator (b.create capacity) (c, 0)) = [c].utf8Encode := by
      rw [write, if_neg (Nat.lt_irrefl 0), h.push, h.create, ByteArray.empty_append,
        String.toByteArray_singleton]
    rw [List.zipIdx_cons, List.foldl_cons, h.foldl_write separator symbols _ (Nat.succ_pos 0),
      hwrite, ← List.utf8Encode_append, ← String.utf8Encode_toList, toList_joinedWith_cons,
      List.singleton_append]

theorem HoldsUTF8.finish_eq (h : b.HoldsUTF8 bytes) {buffer : β} {text : String}
    (hbytes : bytes buffer = text.toByteArray) : b.finish buffer = .ok text := by
  have hvalid : (bytes buffer).IsValidUTF8 := hbytes ▸ text.isValidUTF8
  rw [h.finish buffer hvalid]
  exact congrArg Except.ok (String.toByteArray_inj.mp hbytes)

theorem HoldsUTF8.join_eq (h : b.HoldsUTF8 bytes) (separator : String) (symbols : List Char) :
    b.join separator symbols = .ok (joinedWith separator symbols) := by
  rw [join, h.finish_eq (h.bytes_foldl_write separator symbols _)]
  rfl

end Builder

/-- With a buffer that holds its text in UTF-8, joining never fails. The text has room for the
symbols and the separators between them; each symbol stands at its position, followed by the
separator unless it is the last one; and the symbols are read back from their positions, so that
different ones are joined to different texts. An empty separator leaves the symbols alone. -/
theorem joining_is_exact {β : Type} (b : Builder β) (bytes : β → ByteArray)
    (utf8 : b.HoldsUTF8 bytes) (separator : String) (symbols : List Char) :
    let n := symbols.length
    let k := separator.length
    ∃ text, b.join separator symbols = .ok text ∧ text = joinedWith separator symbols ∧
      text.length = n + (n - 1) * k ∧
      (∀ i < n, text.toList[i * (k + 1)]? = symbols[i]?) ∧
      (∀ i, i + 1 < n → (text.toList.drop (i * (k + 1) + 1)).take k = separator.toList) ∧
      text.toList.head? = symbols.head? ∧ text.toList.getLast? = symbols.getLast? ∧
      everyNth (k + 1) text.toList = symbols ∧
      (∀ symbols', b.join separator symbols' = .ok text → symbols' = symbols) ∧
      b.join "" symbols = .ok (joined symbols) := by
  intro n k
  refine ⟨joinedWith separator symbols, utf8.join_eq separator symbols, rfl,
    length_joinedWith separator symbols,
    fun i _ => getElem?_toList_joinedWith separator symbols i,
    fun i hi => take_drop_toList_joinedWith separator hi,
    head?_toList_joinedWith separator symbols, getLast?_toList_joinedWith separator symbols,
    everyNth_toList_joinedWith separator symbols, ?_, ?_⟩
  · intro symbols' h
    rw [utf8.join_eq] at h
    exact joinedWith_injective separator (Except.ok.inj h)
  · rw [utf8.join_eq, joinedWith_empty]

/-- The separator takes more bytes than characters, and holds symbols of the text. -/
theorem joining_is_exact_of_colliding_separator :
    let symbols := ['1', '+', 'é', '1']
    let text := "1é1+" ++ "+é1+" ++ "éé1+" ++ "1"
    byteBuilder.HoldsUTF8 id ∧ byteBuilder.join "é1+" symbols = .ok text ∧
      text.length = 4 + 3 * 3 ∧ text.toList[2 * 4]? = some 'é' ∧
      (text.toList.drop (1 * 4 + 1)).take 3 = ['é', '1', '+'] ∧
      everyNth 4 text.toList = symbols := by
  intro symbols text
  have htext : joinedWith "é1+" symbols = text := by decide
  have hlength : "é1+".length = 3 := by decide
  obtain ⟨joined, hjoin, hjoined, hall, hsymbol, hseparator, -, -, hread, -⟩ :=
    joining_is_exact byteBuilder id byteBuilder_holdsUTF8 "é1+" symbols
  rw [hjoined, htext] at hjoin hall hsymbol hseparator hread
  rw [hlength] at hall hsymbol hseparator hread
  exact ⟨byteBuilder_holdsUTF8, hjoin, hall, hsymbol 2 (by decide), hseparator 1 (by decide), hread⟩

end ShuntingYard.Text
