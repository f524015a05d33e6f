import MarlinspikeDpi.Foundation.OrderedMap
import MarlinspikeDpi.Foundation.Text

/-!
# JSON values and their compact text

Values as a serialiser sees them: an object lists its entries in key order.
-/

namespace MarlinspikeDpi

open List

inductive Json where
  | null
  | bool (value : Bool)
  | num (value : Int)
  | str (value : String)
  | arr (items : List Json)
  | obj (entries : List (String × Json))

namespace Json

/-- A character inside a string: the short escapes where there is one, `\u00xx` for the other
control characters. -/
def escapeChar (c : Char) : List Char :=
  if c = '"' then ['\\', '"']
  else if c = '\\' then ['\\', '\\']
  else if c = '\n' then ['\\', 'n']
  else if c = '\r' then ['\\', 'r']
  else if c = '\t' then ['\\', 't']
  else if c.toNat = 0x08 then ['\\', 'b']
  else if c.toNat = 0x0C then ['\\', 'f']
  else if c.toNat < 0x20 then ['\\', 'u'] ++ Text.hexDigits 4 c.toNat
  else [c]

def renderString (s : String) : List Char := '"' :: (s.toList.flatMap escapeChar ++ ['"'])

mutual

def render : Json → List Char
  | .null => ['n', 'u', 'l', 'l']
  | .bool true => ['t', 'r', 'u', 'e']
  | .bool false => ['f', 'a', 'l', 's', 'e']
  | .num n => n.repr.toList
  | .str s => renderString s
  | .arr items => '[' :: (renderItems items ++ [']'])
  | .obj entries => '\x7b' :: (renderEntries entries ++ ['\x7d'])

def renderItems : List Json → List Char
  | [] => []
  | [item] => render item
  | item :: next :: items => render item ++ ',' :: renderItems (next :: items)

def renderEntries : List (String × Json) → List Char
  | [] => []
  | [(key, value)] => renderString key ++ ':' :: render value
  | (key, value) :: next :: entries =>
    renderString key ++ ':' :: (render value ++ ',' :: renderEntries (next :: entries))

end

def ofMap (m : OrderedMap String Json) : Json := .obj m.entries

def strings (items : List String) : Json := .arr (items.map .str)

def ofOption : Option Nat → Json
  | none => .null
  | some n => .num n

/-! ## One line -/

lemma newline_not_mem_escapeChar (c : Char) : '\n' ∉ escapeChar c := by
  rw [escapeChar]
  repeat' split
  all_goals simp_all [Text.newline_not_mem_hexDigits, eq_comm]

lemma newline_not_mem_renderString (s : String) : '\n' ∉ renderString s := by
  rw [renderString, mem_cons, mem_append, mem_singleton, mem_flatMap]
  rintro (h | ⟨c, -, hc⟩ | h)
  · exact absurd h (by decide)
  · exact newline_not_mem_escapeChar c hc
  · exact absurd h (by decide)

lemma newline_not_mem_repr (n : Int) : '\n' ∉ n.repr.toList := by
  intro h
  rcases Text.mem_repr_int h with h | h <;> exact absurd h (by decide)

mutual

lemma newline_not_mem_render : ∀ j : Json, '\n' ∉ render j
  | .null => by simp [render]
  | .bool true => by simp [render]
  | .bool false => by simp [render]
  | .num n => by
    rw [render]
    exact newline_not_mem_repr n
  | .str s => by
    rw [render]
    exact newline_not_mem_renderString s
  | .arr items => by simp [render, newline_not_mem_renderItems items]
  | .obj entries => by simp [render, newline_not_mem_renderEntries entries]

lemma newline_not_mem_renderItems : ∀ items : List Json, '\n' ∉ renderItems items
  | [] => by simp [renderItems]
  | [item] => by
    rw [renderItems]
    exact newline_not_mem_render item
  | item :: next :: items => by
    simp [renderItems, newline_not_mem_render item, newline_not_mem_renderItems (next :: items)]

lemma newline_not_mem_renderEntries : ∀ entries : List (String × Json), '\n' ∉ renderEntries entries
  | [] => by simp [renderEntries]
  | [(key, value)] => by
    simp [renderEntries, newline_not_mem_renderString key, newline_not_mem_render value]
  | (key, value) :: next :: entries => by
    simp [renderEntries, newline_not_mem_renderString key, newline_not_mem_render value,
      newline_not_mem_renderEntries (next :: entries)]

end

end Json
end MarlinspikeDpi
