import AttributeBrowser.ClassFile.Attribute
import AttributeBrowser.Frame.Source

/-!
# Decoding frames

A frame read as the entries of an attribute, or as a constant pool. Each field
has a column of its own name that holds a 16-bit number in every row. The first
column at fault is reported, and of it the first row. Once the columns are read, the
entries are made row by row; a row that one of the columns does not have is a fault.
-/

namespace AttributeBrowser

/-- How the columns of a frame are read. -/
inductive AttributeKind
  /-- As they are. -/
  | raw
  | exceptionTable
  | lineNumberTable
  | localVariableTable
  | exceptions
deriving DecidableEq, Repr

namespace Frame

/-- A 16-bit number in a row of a column. -/
def word (name : String) (row : Nat) : Option Int → Except Error UInt16
  | none => .error (.invalidValue (.empty name row))
  | some value =>
    if 0 ≤ value ∧ value ≤ 65535 then .ok (UInt16.ofNat value.toNat)
    else .error (.invalidValue (.outOfRange name row value))

/-- The 16-bit numbers of a column, up to the first fault. -/
def words (frame : Frame) (name : String) : Except Error (Array UInt16) :=
  match frame.column? name with
  | none => .error (.missingColumn name)
  | some column =>
    match column.cells.toIntegers with
    | .error reason => .error (.frame reason)
    | .ok cells => cells.zipIdx.mapM fun (cell, row) => word name row cell

/-- The constant pool with an index and a value in every row. -/
def constantPool (frame : Frame) : Except Error ConstantPool := do
  let indices ← frame.words "index"
  match frame.column? "value" with
  | none => .error (.missingColumn "value")
  | some column =>
    match column.cells.toTexts with
    | .error reason => .error (.frame reason)
    | .ok texts =>
      .ok (ConstantPool.ofList
        (indices.zip (texts.map (·.getD CellText.empty))).toList)

/-- The number in a row. -/
def wordAt (words : Array UInt16) (row : Nat) : Except Fault UInt16 :=
  match words[row]? with
  | some word => .ok word
  | none => .error .rowOutOfRange

/-- An entry for each of so many rows. -/
def byRow {α : Type} (count : Nat) (entry : Nat → Except Fault α) : Except Fault (Array α) :=
  ((List.range count).mapM entry).map List.toArray

/-- The handler in a row of its four columns. -/
def handlerAt (startPcs endPcs handlerPcs catchTypes : Array UInt16) (row : Nat) :
    Except Fault ExceptionHandler := do
  let startPc ← wordAt startPcs row
  let endPc ← wordAt endPcs row
  let handlerPc ← wordAt handlerPcs row
  let catchType ← wordAt catchTypes row
  return { startPc, endPc, handlerPc, catchType }

/-- The handlers of an exception table, one for each row of the first column. -/
def exceptionHandlers (frame : Frame) :
    Except Error (Except Fault (Array ExceptionHandler)) := do
  let startPcs ← frame.words "start_pc"
  let endPcs ← frame.words "end_pc"
  let handlerPcs ← frame.words "handler_pc"
  let catchTypes ← frame.words "catch_type"
  return byRow startPcs.size (handlerAt startPcs endPcs handlerPcs catchTypes)

/-- The lines of a line number table, for as many rows as both columns have. -/
def lineNumbers (frame : Frame) : Except Error (Except Fault (Array LineNumber)) := do
  let startPcs ← frame.words "start_pc"
  let lines ← frame.words "line_number"
  return .ok ((startPcs.zip lines).map fun (startPc, lineNumber) => { startPc, lineNumber })

/-- The variable in a row of its five columns. -/
def variableAt (startPcs lengths names descriptors indices : Array UInt16) (row : Nat) :
    Except Fault LocalVariable := do
  let startPc ← wordAt startPcs row
  let length ← wordAt lengths row
  let nameIndex ← wordAt names row
  let descriptorIndex ← wordAt descriptors row
  let index ← wordAt indices row
  return { startPc, length, nameIndex, descriptorIndex, index }

/-- The variables of a local variable table, one for each row of the first column. -/
def localVariables (frame : Frame) : Except Error (Except Fault (Array LocalVariable)) := do
  let startPcs ← frame.words "start_pc"
  let lengths ← frame.words "length"
  let names ← frame.words "name_index"
  let descriptors ← frame.words "descriptor_index"
  let indices ← frame.words "index"
  return byRow startPcs.size (variableAt startPcs lengths names descriptors indices)

/-- The classes of declared exceptions, row by row. -/
def declaredExceptions (frame : Frame) : Except Error (Except Fault (Array UInt16)) := do
  return .ok (← frame.words "exception_index")

/-- The attribute that a frame holds; none if it is shown as it is. -/
def decode (frame : Frame) : AttributeKind → Except Error (Except Fault (Option Attribute))
  | .raw => .ok (.ok none)
  | .exceptionTable => frame.exceptionHandlers.map (·.map (some ∘ .exceptionTable))
  | .lineNumberTable => frame.lineNumbers.map (·.map (some ∘ .lineNumberTable))
  | .localVariableTable => frame.localVariables.map (·.map (some ∘ .localVariableTable))
  | .exceptions => frame.declaredExceptions.map (·.map (some ∘ .exceptions))

/-- A frame as a source: the attribute it holds, or the frame as it is. -/
def sourceAs (frame : Frame) (kind : AttributeKind) (pool : ConstantPool) (maxWidth : Nat) :
    Except Error (Except Fault Source) := do
  match ← frame.decode kind with
  | .error fault => return .error fault
  | .ok (some decoded) => return .ok (decoded.source pool)
  | .ok none => return .ok (← (frame.source maxWidth).mapError .frame)

end Frame

end AttributeBrowser
