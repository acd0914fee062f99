import MissionScript.Instruction

/-!
# Hex dumps

A dump shows a window of memory in rows of sixteen bytes, each row with its address, the bytes in
hexadecimal and their characters. Bytes of typed cells have a colour by type, the variables that
the highlighted instruction points at another, and the instruction's own bytes are bold. Without
colours the same rows are written plainly.
-/

namespace MissionScript.HexDump

inductive Hue where
  | blue
  | green
  | yellow
deriving DecidableEq, Repr

/-- How a byte is shown. -/
structure Style where
  bold : Bool
  hue? : Option Hue
deriving DecidableEq, Repr

/-- One row: its address and its bytes with their styles. -/
structure Row where
  address : Nat
  cells : List (UInt8 × Style)
deriving DecidableEq, Repr

/-- The number of bytes in a full row. -/
def rowWidth : Nat := 16

/-! ## 1. Rows -/

/-- The variables that an instruction points at. -/
def pointers (instruction : Instruction) : List Span :=
  instruction.args.filterMap fun argument =>
    match argument.operand with
    | .globalVar address => some ⟨address, address + cellWidth⟩
    | _ => none

/-- Numbers are blue, except that floating point numbers are yellow; variables that the highlighted
instruction points at are green. -/
def styleAt (memory : Memory) (highlight? : Option Instruction) (address : Nat) : Style where
  bold :=
    match highlight? with
    | some instruction => Span.contains ⟨instruction.address, instruction.next⟩ address
    | none => false
  hue? :=
    let pointed :=
      match highlight? with
      | some instruction => (pointers instruction).any fun span => span.contains address
      | none => false
    if pointed then some .green
    else
      (memory.cellCovering? address).map fun entry =>
        if entry.2.dataType = .float32 then .yellow else .blue

/-- The bytes that a window shows: it ends with memory, and starts at a full row. -/
def shown (memory : Memory) (window : Span) : Span :=
  let stop := min window.stop memory.size
  ⟨min window.start stop / rowWidth * rowWidth, stop⟩

/-- The addresses of one row. -/
def rowSpan (span : Span) (index : Nat) : Span :=
  let start := span.start + index * rowWidth
  ⟨start, min (start + rowWidth) span.stop⟩

def row (memory : Memory) (highlight? : Option Instruction) (span : Span) : Row where
  address := span.start
  cells := (memory.slice span).zipIdx.map fun (byte, index) =>
    (byte, styleAt memory highlight? (span.start + index))

/-- The rows of a window. -/
def rows (memory : Memory) (window : Span) (highlight? : Option Instruction) : List Row :=
  let span := shown memory window
  let count := (span.stop - span.start + rowWidth - 1) / rowWidth
  (List.range count).map fun index => row memory highlight? (rowSpan span index)

/-! ## 2. Writing -/

/-- Begins and ends the style of one byte. -/
structure Paint where
  before : Style → List Char
  after : List Char

/-- No colours. -/
def plain : Paint := ⟨fun _ => [], []⟩

/-- An escape sequence that sets one attribute. -/
def escape (code : List Char) : List Char := '\x1b' :: '[' :: code ++ ['m']

def hueCode : Hue → List Char
  | .blue => ['3', '4']
  | .green => ['3', '2']
  | .yellow => ['3', '3']

/-- Terminal colours: each byte starts from a clean state and ends with one. -/
def ansi : Paint where
  before style :=
    escape ['0'] ++ (if style.bold then escape ['1'] else []) ++
      (match style.hue? with
       | some hue => escape (hueCode hue)
       | none => [])
  after := escape ['0']

/-- The character that stands for a byte: itself if it can be seen, else a point. -/
def byteChar (byte : UInt8) : Char :=
  if 0x20 ≤ byte ∧ byte ≤ 0x7E then Char.ofNat byte.toNat else '.'

/-- The two digits of a byte, in its style. -/
def cellText (paint : Paint) (cell : UInt8 × Style) : List Char :=
  paint.before cell.2 ++ Text.hexDigits Text.upperDigit 2 cell.1.toNat ++ paint.after ++ [' ']

/-- The line of a row; missing bytes of a short row leave blanks. -/
def rowText (paint : Paint) (row : Row) : List Char :=
  Text.upperHex 8 row.address ++ [' ', ' '] ++ row.cells.flatMap (cellText paint) ++
    List.replicate (3 * (rowWidth - row.cells.length)) ' ' ++ [' '] ++
    row.cells.map (fun cell => byteChar cell.1) ++ ['\n']

/-- The dump of a window of memory. -/
def render (paint : Paint) (memory : Memory) (window : Span) (highlight? : Option Instruction) :
    String :=
  String.ofList ((rows memory window highlight?).flatMap (rowText paint))

end MissionScript.HexDump
