import LinkCourier.Text.Basic

/-!
Reading bytes as UTF-8, as a one-pass scan.

The scan stands between characters or inside one. A byte that cannot continue the
character in progress closes it as a bad item and is read again as a first byte, so a bad
item is a longest run of bytes that some character begins with, or a single byte that none
begins with.
-/

namespace LinkCourier.Utf8

/-- A character in progress: the bytes seen, how many are still due, the range the next
one must lie in, and the value so far. -/
structure Part where
  seen : Nat
  due : Nat
  lo : Nat
  hi : Nat
  val : Nat

inductive Item where
  | char (c : Char)
  | bad (width : Nat)
  | cut (width : Nat)

/-- What has been read, newest first, and the character in progress. -/
structure St where
  items : List Item
  part : Option Part

def init : St := ⟨[], none⟩

/-- The further bytes a first byte asks for. -/
def lead (b : Nat) : Option Part :=
  if b < 0xC2 then none
  else if b < 0xE0 then some ⟨1, 1, 0x80, 0xBF, b - 0xC0⟩
  else if b = 0xE0 then some ⟨1, 2, 0xA0, 0xBF, 0⟩
  else if b = 0xED then some ⟨1, 2, 0x80, 0x9F, 0xD⟩
  else if b < 0xF0 then some ⟨1, 2, 0x80, 0xBF, b - 0xE0⟩
  else if b = 0xF0 then some ⟨1, 3, 0x90, 0xBF, 0⟩
  else if b < 0xF4 then some ⟨1, 3, 0x80, 0xBF, b - 0xF0⟩
  else if b = 0xF4 then some ⟨1, 3, 0x80, 0x8F, 4⟩
  else none

/-- Reads a byte between two characters. -/
def start (items : List Item) (b : Nat) : St :=
  if b < 0x80 then ⟨.char (Char.ofNat b) :: items, none⟩
  else match lead b with
    | some p => ⟨items, some p⟩
    | none => ⟨.bad 1 :: items, none⟩

def step (s : St) (byte : UInt8) : St :=
  let b := byte.toNat
  match s.part with
  | none => start s.items b
  | some p =>
    if p.lo ≤ b ∧ b ≤ p.hi then
      let v := 64 * p.val + (b - 0x80)
      if p.due ≤ 1 then ⟨.char (Char.ofNat v) :: s.items, none⟩
      else ⟨s.items, some ⟨p.seen + 1, p.due - 1, 0x80, 0xBF, v⟩⟩
    else start (.bad p.seen :: s.items) b

def run (s : St) (w : Bytes) : St := w.foldl step s

@[simp] theorem run_nil (s : St) : run s [] = s := rfl
@[simp] theorem run_cons (s : St) (b : UInt8) (w : Bytes) : run s (b :: w) = run (step s b) w := rfl
theorem run_append (s : St) (u v : Bytes) : run s (u ++ v) = run (run s u) v := by
  simp [run, List.foldl_append]

/-- The items of the whole input; a character in progress at its end is cut. -/
def items (w : Bytes) : List Item :=
  let s := run init w
  match s.part with
  | none => s.items.reverse
  | some p => (.cut p.seen :: s.items).reverse

/-- The first item that is no character, by its width and the index of its first byte. -/
inductive Fault where
  | invalid (width index : Nat)
  | incomplete (index : Nat)
  deriving DecidableEq, Repr

def Fault.message : Fault → String
  | .invalid width index =>
    s!"invalid utf-8 sequence of {width} bytes from index {index}"
  | .incomplete index => s!"incomplete utf-8 byte sequence from index {index}"

def fault? (index : Nat) : List Item → Option Fault
  | [] => none
  | .char c :: r => fault? (index + c.utf8Size) r
  | .bad n :: _ => some (.invalid n index)
  | .cut _ :: _ => some (.incomplete index)

def Item.char? : Item → Option Char
  | .char c => some c
  | _ => none

/-- Reads bytes strictly. -/
def decode (w : Bytes) : Except Fault Text :=
  match fault? 0 (items w) with
  | some f => .error f
  | none => .ok ((items w).filterMap Item.char?)

/-- Reads bytes with a replacement character for each bad item. -/
def decodeLossy (w : Bytes) : Text := (items w).map fun i => i.char?.getD '\uFFFD'

end LinkCourier.Utf8
