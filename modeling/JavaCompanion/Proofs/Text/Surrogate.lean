/-
Spellings of texts.

A text of characters alone is found again in its spelling, and a text from which characters are
taken is the spelling of these (`characters?_eq_some_iff`).  Texts without a mark are spelled as
they are.  Texts that are put together have the characters, and the bytes, of their parts one
after another.
-/
import JavaCompanion.FileTree.Path
import Mathlib.Data.Option.Basic

namespace JavaCompanion

namespace Text

variable {c : Char} {cs ds xs ys : List Char}

theorem characters?_cons_of_ne (h : c ≠ surrogateMark) (rest : List Char) :
    characters? (c :: rest) = (characters? rest).map (c :: ·) := by
  rw [characters?.eq_def]
  exact if_neg h

theorem characters?_mark (rest : List Char) :
    characters? (surrogateMark :: surrogateMark :: rest)
      = (characters? rest).map (surrogateMark :: ·) := by
  rw [characters?, if_pos rfl, if_pos rfl]

theorem characters?_spelledChar_append (c : Char) (rest : List Char) :
    characters? (spelledChar c ++ rest) = (characters? rest).map (c :: ·) := by
  unfold spelledChar
  split
  · next h =>
    rw [h]
    exact characters?_mark rest
  · next h => exact characters?_cons_of_ne h rest

theorem characters?_spelled (cs : List Char) : characters? (cs.flatMap spelledChar) = some cs := by
  induction cs with
  | nil => rfl
  | cons c rest ih =>
    rw [List.flatMap_cons, characters?_spelledChar_append, ih]
    rfl

theorem spelled_of_characters? (h : characters? cs = some ds) : ds.flatMap spelledChar = cs := by
  fun_induction characters? cs generalizing ds with
  | case1 =>
    cases h
    rfl
  | case2 rest ih =>
    obtain ⟨more, hmore, rfl⟩ := Option.map_eq_some_iff.mp h
    rw [List.flatMap_cons, ih hmore]
    rfl
  | case3 => exact nomatch h
  | case4 => exact nomatch h
  | case5 c rest hc ih =>
    obtain ⟨more, hmore, rfl⟩ := Option.map_eq_some_iff.mp h
    rw [List.flatMap_cons, ih hmore, spelledChar, if_neg hc]
    rfl

theorem characters?_eq_some_iff : characters? cs = some ds ↔ ds.flatMap spelledChar = cs :=
  ⟨spelled_of_characters?, fun h => h ▸ characters?_spelled ds⟩

theorem characters?_append (hcs : characters? cs = some xs) (hds : characters? ds = some ys) :
    characters? (cs ++ ds) = some (xs ++ ys) := by
  rw [characters?_eq_some_iff, List.flatMap_append, spelled_of_characters? hcs,
    spelled_of_characters? hds]

theorem flatten_symbols (cs : List Char) : (symbols cs).flatten = cs := by
  fun_induction symbols cs with
  | case1 => rfl
  | case2 d rest ih => rw [List.flatten_cons, ih]; rfl
  | case3 => rfl
  | case4 c rest hc ih => rw [List.flatten_cons, ih]; rfl

theorem mem_of_mem_symbols {symbol : List Char} (hsymbol : symbol ∈ symbols cs) (hc : c ∈ symbol) :
    c ∈ cs := by
  rw [← flatten_symbols cs]
  exact List.mem_flatten.mpr ⟨symbol, hsymbol, hc⟩

end Text

namespace FileTree

open Text

variable {cs ds : List Char} {m n : Nat}

theorem byteCount?_cons_of_ne {c : Char} (h : c ≠ surrogateMark) (rest : List Char) :
    byteCount? (c :: rest) = (byteCount? rest).map (· + c.utf8Size) := by
  rw [byteCount?.eq_def]
  exact if_neg h

theorem byteCount?_append (hcs : byteCount? cs = some m) (hds : byteCount? ds = some n) :
    byteCount? (cs ++ ds) = some (n + m) := by
  fun_induction byteCount? cs generalizing m with
  | case1 =>
    cases hcs
    exact hds
  | case2 rest ih =>
    obtain ⟨k, hk, rfl⟩ := Option.map_eq_some_iff.mp hcs
    rw [List.cons_append, List.cons_append, byteCount?, if_pos rfl, if_pos rfl, ih hk]
    exact congrArg some (Nat.add_assoc n k _)
  | case3 d rest hd hbyte ih =>
    obtain ⟨k, hk, rfl⟩ := Option.map_eq_some_iff.mp hcs
    rw [List.cons_append, List.cons_append, byteCount?, if_pos rfl, if_neg hd, if_pos hbyte,
      ih hk]
    rfl
  | case4 => exact nomatch hcs
  | case5 => exact nomatch hcs
  | case6 c rest hc ih =>
    obtain ⟨k, hk, rfl⟩ := Option.map_eq_some_iff.mp hcs
    rw [List.cons_append, byteCount?_cons_of_ne hc, ih hk]
    exact congrArg some (Nat.add_assoc n k _)

end FileTree
end JavaCompanion
