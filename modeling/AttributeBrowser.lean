import AttributeBrowser.ClassFile.Attribute
import AttributeBrowser.ClassFile.ConstantPool
import AttributeBrowser.Command.Expansion
import AttributeBrowser.Command.LogFilter
import AttributeBrowser.Command.Options
import AttributeBrowser.Command.Start
import AttributeBrowser.Csv.Field
import AttributeBrowser.Csv.Kind
import AttributeBrowser.Csv.Reader
import AttributeBrowser.Dump.FileTree
import AttributeBrowser.Dump.Load
import AttributeBrowser.Dump.Path
import AttributeBrowser.Error
import AttributeBrowser.Fault
import AttributeBrowser.Frame.Basic
import AttributeBrowser.Frame.CellText
import AttributeBrowser.Frame.Conversion
import AttributeBrowser.Frame.Decoding
import AttributeBrowser.Frame.Source
import AttributeBrowser.Main
import AttributeBrowser.Number.Calendar
import AttributeBrowser.Number.Decimal
import AttributeBrowser.Number.FloatFormat
import AttributeBrowser.Number.FloatText
import AttributeBrowser.Number.Rounding
import AttributeBrowser.Proofs.ClassFile.Links
import AttributeBrowser.Proofs.Frame.CastTexts
import AttributeBrowser.Proofs.Frame.ColumnWidths
import AttributeBrowser.Proofs.Frame.Decoding
import AttributeBrowser.Proofs.Frame.Encoding
import AttributeBrowser.Proofs.Frame.FloatTexts
import AttributeBrowser.Proofs.Frame.Numbers
import AttributeBrowser.Proofs.Frame.ShownFloats
import AttributeBrowser.Proofs.Frame.SingleLines
import AttributeBrowser.Proofs.Frame.TextLines
import AttributeBrowser.Proofs.Frame.TypedView
import AttributeBrowser.Proofs.Number.Canonical
import AttributeBrowser.Proofs.Number.DecimalText
import AttributeBrowser.Proofs.Number.DigitCount
import AttributeBrowser.Proofs.Number.FloatValue
import AttributeBrowser.Proofs.Number.RoundedDigits
import AttributeBrowser.Proofs.Number.Shortest
import AttributeBrowser.Proofs.Number.TextLengths
import AttributeBrowser.Proofs.Screen.WindowLines
import AttributeBrowser.Proofs.Table.Calls
import AttributeBrowser.Proofs.Table.RowNumbers
import AttributeBrowser.Proofs.Table.RowRequests
import AttributeBrowser.Proofs.Table.SharedCalls
import AttributeBrowser.Proofs.Table.SharedViews
import AttributeBrowser.Proofs.Table.View
import AttributeBrowser.Proofs.Text.OneLine
import AttributeBrowser.Proofs.Viewer.Asked
import AttributeBrowser.Proofs.Viewer.Calls
import AttributeBrowser.Proofs.Viewer.ColumnScroll
import AttributeBrowser.Proofs.Viewer.Columns
import AttributeBrowser.Proofs.Viewer.Cursor
import AttributeBrowser.Proofs.Viewer.Display
import AttributeBrowser.Proofs.Viewer.Faults
import AttributeBrowser.Proofs.Viewer.FullWindow
import AttributeBrowser.Proofs.Viewer.History
import AttributeBrowser.Proofs.Viewer.Layout
import AttributeBrowser.Proofs.Viewer.Progress
import AttributeBrowser.Proofs.Viewer.Ready
import AttributeBrowser.Proofs.Viewer.Rows
import AttributeBrowser.Proofs.Viewer.Scrolling
import AttributeBrowser.Proofs.Viewer.Selection
import AttributeBrowser.Proofs.Viewer.Sessions
import AttributeBrowser.Proofs.Viewer.Steps
import AttributeBrowser.Proofs.Viewer.Window
import AttributeBrowser.Screen.Basic
import AttributeBrowser.Screen.Columns
import AttributeBrowser.Screen.Line
import AttributeBrowser.Screen.Session
import AttributeBrowser.Screen.TablePane
import AttributeBrowser.Table.Cell
import AttributeBrowser.Table.CellMemo
import AttributeBrowser.Table.RowNumbers
import AttributeBrowser.Table.SharedViews
import AttributeBrowser.Table.Source
import AttributeBrowser.Table.View
import AttributeBrowser.Text.Alphanumeric
import AttributeBrowser.Text.CharSet
import AttributeBrowser.Text.Digits
import AttributeBrowser.Text.Formatting
import AttributeBrowser.Text.Grapheme
import AttributeBrowser.Text.Marks
import AttributeBrowser.Text.Pictographs
import AttributeBrowser.Text.Uppercase
import AttributeBrowser.Text.Utf8
import AttributeBrowser.Text.Wide
import AttributeBrowser.Viewer.Basic
import AttributeBrowser.Viewer.Message
import AttributeBrowser.Viewer.Session
import AttributeBrowser.Viewer.Settings
import AttributeBrowser.Viewer.TerminalInput
import AttributeBrowser.Proofs.Screen.ColumnsFit
import AttributeBrowser.Proofs.Viewer.Alike
import AttributeBrowser.Proofs.Viewer.Moves
import AttributeBrowser.Proofs.Frame.BrokenLines
import AttributeBrowser.Proofs.Frame.MeasuredWidths
import AttributeBrowser.Proofs.Frame.PoolDumps
import AttributeBrowser.Proofs.Frame.NumberColumn
import AttributeBrowser.Proofs.Frame.ShownIntegers
import AttributeBrowser.Proofs.ClassFile.Labels
import AttributeBrowser.Proofs.Screen.Drawings
import AttributeBrowser.Proofs.Dump.Judgement
