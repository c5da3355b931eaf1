import CalendarRelay.Json.Reader
import CalendarRelay.Main
import CalendarRelay.Proofs.Folding
import CalendarRelay.Proofs.Escape
import CalendarRelay.Proofs.Parameter
import CalendarRelay.Proofs.ContentLine
import CalendarRelay.Proofs.Tree
import CalendarRelay.Proofs.Body
import CalendarRelay.Proofs.Rereading
import CalendarRelay.Proofs.Reading
import CalendarRelay.Proofs.Shape
import CalendarRelay.Proofs.Canonical
import CalendarRelay.Proofs.Decoding
import CalendarRelay.Proofs.TextValue
import CalendarRelay.Proofs.ListValue
import CalendarRelay.Proofs.PhysicalLines
import CalendarRelay.Proofs.Stability
import CalendarRelay.Proofs.Privacy
import CalendarRelay.Proofs.KeyOrder
import CalendarRelay.Proofs.History
import CalendarRelay.Proofs.Effect
import CalendarRelay.Proofs.Commutation
import CalendarRelay.Proofs.Editing
import CalendarRelay.Proofs.Symbols
import CalendarRelay.Proofs.FilterReading
import CalendarRelay.Proofs.Meaning
import CalendarRelay.Proofs.Addresses
import CalendarRelay.Proofs.Grammar
import CalendarRelay.Proofs.Coherence
import CalendarRelay.Proofs.Faults
import CalendarRelay.Proofs.Spans
import CalendarRelay.Proofs.Substitution
import CalendarRelay.Proofs.Course
import CalendarRelay.Proofs.Composition
import CalendarRelay.Proofs.Keeping
import CalendarRelay.Proofs.Loading
import CalendarRelay.Proofs.Report
import CalendarRelay.Proofs.Merging
import CalendarRelay.Proofs.Subscription
import CalendarRelay.Proofs.Watching
import CalendarRelay.Proofs.Accounting
import CalendarRelay.Proofs.CalendarPaths
import CalendarRelay.Proofs.Overlay
import CalendarRelay.Proofs.Layering
import CalendarRelay.Proofs.Dependence
import CalendarRelay.Proofs.ShortCircuit

