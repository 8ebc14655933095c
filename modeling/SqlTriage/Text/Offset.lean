/-!
# Byte offsets

Positions in a text are counted in bytes of its UTF-8 form. `byteLength` measures a character
list, and `byteSlice?` cuts the characters that fill a range of bytes, which succeeds only for a
range that lies inside the text and begins and ends between characters. Cutting a part out by its
own range gives it back (`byteSlice?_append`).
-/

namespace SqlTriage.Text

/-- The number of bytes of a character list in UTF-8. -/
def byteLength : List Char → Nat
  | [] => 0
  | c :: s => c.utf8Size + byteLength s

/-- Splits at a byte offset, if that falls between two characters or at an end. -/
def splitAtByte? : Nat → List Char → Option (List Char × List Char)
  | 0, s => some ([], s)
  | _ + 1, [] => none
  | n + 1, c :: s =>
    if c.utf8Size ≤ n + 1 then
      (splitAtByte? (n + 1 - c.utf8Size) s).map fun p => (c :: p.1, p.2)
    else none

/-- The characters that fill the `length` bytes from offset `start`. -/
def byteSlice? (start length : Nat) (s : List Char) : Option (List Char) := do
  let (_, rest) ← splitAtByte? start s
  let (slice, _) ← splitAtByte? length rest
  return slice

/-! ## Ranges that fit -/

@[simp] theorem byteLength_append (s t : List Char) :
    byteLength (s ++ t) = byteLength s + byteLength t := by
  induction s with
  | nil => simp [byteLength]
  | cons c s ih => simp only [List.cons_append, byteLength, ih, Nat.add_assoc]

theorem byteLength_toList (s : String) : byteLength s.toList = s.utf8ByteSize := by
  have hlist (cs : List Char) : byteLength cs = (String.ofList cs).utf8ByteSize := by
    induction cs with
    | nil => rfl
    | cons c cs ih =>
      rw [byteLength, ih, String.ofList_cons, String.utf8ByteSize_append,
        String.utf8ByteSize_singleton]
  rw [hlist, String.ofList_toList]

theorem splitAtByte?_append (s t : List Char) :
    splitAtByte? (byteLength s) (s ++ t) = some (s, t) := by
  induction s with
  | nil => simp [byteLength, splitAtByte?]
  | cons c s ih =>
    obtain ⟨n, hn⟩ := Nat.exists_eq_add_one_of_ne_zero (Nat.ne_of_gt c.utf8Size_pos)
    have hsum : c.utf8Size + byteLength s = n + byteLength s + 1 := by omega
    rw [List.cons_append, byteLength, hsum, splitAtByte?, if_pos (by omega)]
    rw [show n + byteLength s + 1 - c.utf8Size = byteLength s by omega, ih, Option.map_some]

theorem byteSlice?_append (front slice rest : List Char) :
    byteSlice? (byteLength front) (byteLength slice) (front ++ (slice ++ rest)) = some slice := by
  simp [byteSlice?, splitAtByte?_append]

end SqlTriage.Text
