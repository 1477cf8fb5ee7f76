import AttributeBrowser.ClassFile.ConstantPool
import AttributeBrowser.Table.Source

/-!
# Attributes of a class file

The four tables of a method that can be shown: its exception table, line numbers,
local variables and declared exceptions. Each is a list of entries with a source
over it. A row behind the last entry has no cell and no link; a column behind the
last one reads as the last one, but has no link of its own.
-/

namespace AttributeBrowser

/-! ## Widths -/

namespace Attribute

/-- The width of the row numbers. -/
def numberWidth : Nat := 6

/-- The width of a column of numbers or program counters. -/
def plainWidth : Nat := 12

/-- The width of a column that leads to the constant pool. -/
def linkWidth : Nat := 40

/-- The width of a table column, where `links` are the source columns of pool links. -/
def columnWidth (links : List Nat) : Nat → Nat
  | 0 => numberWidth
  | column + 1 => if column ∈ links then linkWidth else plainWidth

end Attribute

/-! ## The exception table -/

/-- A range of instructions, its handler, and the class caught (zero for any). -/
structure ExceptionHandler where
  startPc : UInt16
  endPc : UInt16
  handlerPc : UInt16
  catchType : UInt16
deriving DecidableEq, Repr

namespace ExceptionHandler

/-- What a column shows; a handler without a class catches any. -/
def cell (handler : ExceptionHandler) (pool : ConstantPool) : Nat → Cell
  | 0 => codeLink handler.startPc
  | 1 => codeLink handler.endPc
  | 2 => codeLink handler.handlerPc
  | _ => if handler.catchType = 0 then .text "any" else pool.link handler.catchType

/-- Where a column leads; there is no class to lead to if any is caught. -/
def target? (handler : ExceptionHandler) : Nat → Option LinkTarget
  | 0 => some (.code handler.startPc)
  | 1 => some (.code handler.endPc)
  | 2 => some (.code handler.handlerPc)
  | 3 => if handler.catchType = 0 then none else some (.constantPool handler.catchType)
  | _ => none

def columnName : Nat → String
  | 0 => "Start PC"
  | 1 => "End PC"
  | 2 => "Handler PC"
  | _ => "Catch Type"

/-- An exception table as a source. -/
def source (handlers : Array ExceptionHandler) (pool : ConstantPool) : Source where
  rowCount := handlers.size
  columnCount := 4
  valueAt row column :=
    match handlers[row]? with
    | some handler => .ok (handler.cell pool column)
    | none => .error .rowOutOfRange
  columnName column := .ok (columnName column)
  columnType _ := .ok .link
  columnWidth column := .ok (Attribute.columnWidth [3] column)
  linkTarget row column := .ok (handlers[row]?.bind (·.target? column))

end ExceptionHandler

/-! ## Line numbers -/

/-- The line of the program text that an instruction starts. -/
structure LineNumber where
  startPc : UInt16
  lineNumber : UInt16
deriving DecidableEq, Repr

namespace LineNumber

/-- What a column shows. -/
def cell (line : LineNumber) : Nat → Cell
  | 0 => codeLink line.startPc
  | _ => .number line.lineNumber.toNat

/-- Only the first column leads anywhere. -/
def target? (line : LineNumber) : Nat → Option LinkTarget
  | 0 => some (.code line.startPc)
  | _ => none

def columnName : Nat → String
  | 0 => "Start PC"
  | _ => "Line Number"

def columnType : Nat → ColumnType
  | 0 => .link
  | _ => .number

/-- A line number table as a source. -/
def source (lines : Array LineNumber) : Source where
  rowCount := lines.size
  columnCount := 2
  valueAt row column :=
    match lines[row]? with
    | some line => .ok (line.cell column)
    | none => .error .rowOutOfRange
  columnName column := .ok (columnName column)
  columnType column := .ok (columnType column)
  columnWidth column := .ok (Attribute.columnWidth [] column)
  linkTarget row column := .ok (lines[row]?.bind (·.target? column))

end LineNumber

/-! ## Local variables -/

/-- A local variable: where it lives, its name, type and slot. -/
structure LocalVariable where
  startPc : UInt16
  length : UInt16
  nameIndex : UInt16
  descriptorIndex : UInt16
  index : UInt16
deriving DecidableEq, Repr

namespace LocalVariable

/-- What a column shows. The slot stands before the name. -/
def cell (entry : LocalVariable) (pool : ConstantPool) : Nat → Cell
  | 0 => codeLink entry.startPc
  | 1 => .number entry.length.toNat
  | 2 => .number entry.index.toNat
  | 3 => pool.link entry.nameIndex
  | _ => pool.link entry.descriptorIndex

/-- Where a column leads: the code, the name or the descriptor. -/
def target? (entry : LocalVariable) : Nat → Option LinkTarget
  | 0 => some (.code entry.startPc)
  | 3 => some (.constantPool entry.nameIndex)
  | 4 => some (.constantPool entry.descriptorIndex)
  | _ => none

def columnName : Nat → String
  | 0 => "Start PC"
  | 1 => "Length"
  | 2 => "Index"
  | 3 => "Name"
  | _ => "Descriptor"

def columnType : Nat → ColumnType
  | 1 => .number
  | 2 => .number
  | _ => .link

/-- A local variable table as a source. -/
def source (entries : Array LocalVariable) (pool : ConstantPool) : Source where
  rowCount := entries.size
  columnCount := 5
  valueAt row column :=
    match entries[row]? with
    | some entry => .ok (entry.cell pool column)
    | none => .error .rowOutOfRange
  columnName column := .ok (columnName column)
  columnType column := .ok (columnType column)
  columnWidth column := .ok (Attribute.columnWidth [3, 4] column)
  linkTarget row column := .ok (entries[row]?.bind (·.target? column))

end LocalVariable

/-! ## Declared exceptions -/

namespace DeclaredExceptions

/-- The classes a method declares to throw, as a source. -/
def source (classes : Array UInt16) (pool : ConstantPool) : Source where
  rowCount := classes.size
  columnCount := 1
  valueAt row _ :=
    match classes[row]? with
    | some index => .ok (pool.link index)
    | none => .error .rowOutOfRange
  columnName _ := .ok "Exception"
  columnType _ := .ok .link
  columnWidth column := .ok (Attribute.columnWidth [0] column)
  linkTarget row _ := .ok (classes[row]?.map .constantPool)

end DeclaredExceptions

/-! ## All of them -/

/-- An attribute with its entries. -/
inductive Attribute
  | exceptionTable (entries : Array ExceptionHandler)
  | lineNumberTable (entries : Array LineNumber)
  | localVariableTable (entries : Array LocalVariable)
  | exceptions (classes : Array UInt16)
deriving DecidableEq, Repr

/-- An attribute as a source. -/
def Attribute.source (pool : ConstantPool) : Attribute → Source
  | .exceptionTable entries => ExceptionHandler.source entries pool
  | .lineNumberTable entries => LineNumber.source entries
  | .localVariableTable entries => LocalVariable.source entries pool
  | .exceptions classes => DeclaredExceptions.source classes pool

end AttributeBrowser
