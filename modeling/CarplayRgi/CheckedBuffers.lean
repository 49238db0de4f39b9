import CarplayRgi.ByteBuffers

/-!
# Buffers with checked accesses

Reads, stores and prints that give no result outside their bounds.  A sequence
of prints at a running offset stays inside its buffer when everything that is
printed and the terminator fit it; the buffer then holds the printed texts one
after the other.
-/

namespace CarplayRgi

namespace CheckedBuffers

open ByteBuffers

variable {Item : Type*}

/-- A number of items from a position on. -/
def slice? (mem : List Item) (start len : Nat) : Option (List Item) :=
  if start + len ≤ mem.length then some ((mem.drop start).take len) else none

/-- Store behind the items that an array of this capacity holds. -/
def push? (cap : Nat) (items : List Item) (item : Item) : Option (List Item) :=
  if items.length < cap then some (items ++ [item]) else none

/-- Change the item at a position. -/
def modify? (items : List Item) (position : Nat) (change : Item → Item) : Option (List Item) :=
  if position < items.length then some (items.modify position change) else none

theorem slice?_of_le {mem : List Item} {start len : Nat} (inside : start + len ≤ mem.length) :
    slice? mem start len = some ((mem.drop start).take len) :=
  if_pos inside

theorem push?_of_lt {cap : Nat} {items : List Item} (room : items.length < cap) (item : Item) :
    push? cap items item = some (items ++ [item]) :=
  if_pos room

theorem modify?_of_lt {items : List Item} {position : Nat} (inside : position < items.length)
    (change : Item → Item) : modify? items position change = some (items.modify position change) :=
  if_pos inside

variable (terminator : Item) (size : Nat)

/-- Print at an offset into the first `size` items of a memory, as
`off += snprintf(buf + off, size - off, text)` does: a text that is too long
is cut for the terminator, and the offset grows by the whole text. -/
def printAt? (out : List Item × Nat) (text : List Item) : Option (List Item × Nat) :=
  if out.2 < size then
    some (memcpy out.1 out.2 (text.take (size - out.2 - 1) ++ [terminator]), out.2 + text.length)
  else none

/-- Print one text after the other. -/
def printAll? (out : List Item × Nat) (texts : List (List Item)) : Option (List Item × Nat) :=
  texts.foldlM (printAt? terminator size) out

variable {size}

theorem printAt?_append (before rest : List Item) {text : List Item}
    (room : before.length + text.length < size) :
    printAt? terminator size (before ++ rest, before.length) text =
      some (before ++ (text ++ terminator :: rest.drop (text.length + 1)),
        before.length + text.length) := by
  have whole : text.take (size - before.length - 1) = text :=
    List.take_of_length_le (by omega)
  rw [printAt?, if_pos (by dsimp only; omega)]
  dsimp only
  rw [whole, memcpy_append, List.length_append, List.length_singleton, List.append_assoc]
  rfl

/-- What fits is printed whole; behind it stands a terminator, unless nothing
was printed. -/
theorem printAll?_append (before rest : List Item) {texts : List (List Item)}
    (room : before.length + texts.flatten.length < size) :
    ∃ tail, printAll? terminator size (before ++ rest, before.length) texts =
        some (before ++ (texts.flatten ++ tail), before.length + texts.flatten.length) ∧
      (texts = [] ∧ tail = rest ∨ texts ≠ [] ∧ ∃ later, tail = terminator :: later) := by
  induction texts generalizing before rest with
  | nil => exact ⟨rest, rfl, .inl ⟨rfl, rfl⟩⟩
  | cons text texts ih =>
      rw [List.flatten_cons, List.length_append] at room
      have fits : before.length + text.length < size := by omega
      have first := printAt?_append terminator before rest fits
      obtain ⟨tail, printed, behind⟩ := ih (before ++ text)
        (terminator :: rest.drop (text.length + 1)) (by rw [List.length_append]; omega)
      refine ⟨tail, ?_, .inr ⟨List.cons_ne_nil text texts, ?_⟩⟩
      · rw [printAll?, List.foldlM_cons, first, ← List.append_assoc, ← List.length_append]
        refine printed.trans ?_
        rw [List.flatten_cons, List.length_append, List.length_append, List.append_assoc,
          List.append_assoc, Nat.add_assoc]
      · rcases behind with ⟨-, isRest⟩ | ⟨-, ended⟩
        · exact ⟨_, isRest⟩
        · exact ended

theorem printAll?_eq {mem : List Item} {texts : List (List Item)}
    (room : texts.flatten.length < size) :
    ∃ tail, printAll? terminator size (mem, 0) texts =
        some (texts.flatten ++ tail, texts.flatten.length) ∧
      (texts = [] ∧ tail = mem ∨ texts ≠ [] ∧ ∃ later, tail = terminator :: later) := by
  have fits : ([] : List Item).length + texts.flatten.length < size := by
    rwa [List.length_nil, Nat.zero_add]
  obtain ⟨tail, printed, behind⟩ := printAll?_append terminator [] mem fits
  rw [List.length_nil, Nat.zero_add] at printed
  exact ⟨tail, printed, behind⟩

/-- Print one text after the other until the offset comes near the end. -/
def printUntil? (margin size : Nat) (out : List Item × Nat) :
    List (List Item) → Option (List Item × Nat)
  | [] => some out
  | text :: texts => do
      let printed ← printAt? terminator size out text
      if size ≤ printed.2 + margin then some printed else printUntil? margin size printed texts

/-- Far from the end nothing is left out. -/
theorem printUntil?_eq {margin : Nat} {out : List Item × Nat} {texts : List (List Item)}
    (room : out.2 + texts.flatten.length + margin < size) :
    printUntil? terminator margin size out texts = printAll? terminator size out texts := by
  induction texts generalizing out with
  | nil => rfl
  | cons text texts ih =>
      rw [List.flatten_cons, List.length_append] at room
      have first : ∃ mem, printAt? terminator size out text = some (mem, out.2 + text.length) :=
        ⟨_, if_pos (by omega)⟩
      obtain ⟨mem, printed⟩ := first
      rw [printUntil?, printAll?, List.foldlM_cons, printed]
      change (if size ≤ out.2 + text.length + margin then _ else _) = _
      rw [if_neg (by omega)]
      exact ih (by dsimp only; omega)

/-- Every text but the first has the separator in front. -/
def separated (separator : List Item) : List (List Item) → List (List Item)
  | [] => []
  | first :: rest => first :: rest.map (separator ++ ·)

theorem flatten_map_append (separator first : List Item) (rest : List (List Item)) :
    first ++ (rest.map (separator ++ ·)).flatten = separator.intercalate (first :: rest) := by
  induction rest generalizing first with
  | nil => simp [List.intercalate]
  | cons second rest ih =>
      rw [List.map_cons, List.flatten_cons, List.append_assoc, ih]
      simp [List.intercalate]

theorem flatten_separated (separator : List Item) (texts : List (List Item)) :
    (separated separator texts).flatten = separator.intercalate texts := by
  cases texts with
  | nil => rfl
  | cons first rest => exact flatten_map_append separator first rest

theorem separated_eq_nil {separator : List Item} {texts : List (List Item)} :
    separated separator texts = [] ↔ texts = [] := by
  cases texts with
  | nil => exact Iff.rfl
  | cons first rest => exact iff_of_false (List.cons_ne_nil _ _) (List.cons_ne_nil _ _)

theorem mem_intercalate {separator : List Item} {texts : List (List Item)} {item : Item}
    (member : item ∈ separator.intercalate texts) :
    item ∈ separator ∨ ∃ text ∈ texts, item ∈ text := by
  rw [← flatten_separated] at member
  obtain ⟨print, inPrints, inPrint⟩ := List.mem_flatten.mp member
  cases texts with
  | nil => cases inPrints
  | cons first rest =>
      rcases List.mem_cons.mp inPrints with rfl | later
      · exact .inr ⟨print, List.mem_cons_self, inPrint⟩
      · obtain ⟨text, inRest, rfl⟩ := List.mem_map.mp later
        rcases List.mem_append.mp inPrint with inSeparator | inText
        · exact .inl inSeparator
        · exact .inr ⟨text, List.mem_cons_of_mem first inRest, inText⟩

theorem length_intercalate_le {separator : List Item} {texts : List (List Item)} {bound : Nat}
    (short : ∀ text ∈ texts, text.length ≤ bound) :
    (separator.intercalate texts).length ≤ texts.length * (bound + separator.length) := by
  rw [← flatten_separated]
  cases texts with
  | nil => exact Nat.zero_le _
  | cons first rest =>
      have head := short first List.mem_cons_self
      have tail : ((rest.map (separator ++ ·)).flatten).length ≤
          rest.length * (bound + separator.length) := by
        have each : ∀ text ∈ rest, text.length ≤ bound :=
          fun text member => short text (List.mem_cons_of_mem first member)
        clear short
        induction rest with
        | nil => exact Nat.zero_le _
        | cons text rest ih =>
            have below := each text List.mem_cons_self
            have later := ih fun other member => each other (List.mem_cons_of_mem text member)
            rw [List.map_cons, List.flatten_cons, List.length_append, List.length_append,
              List.length_cons, Nat.succ_mul]
            omega
      rw [separated, List.flatten_cons, List.length_append, List.length_cons, Nat.succ_mul]
      omega

end CheckedBuffers

end CarplayRgi
