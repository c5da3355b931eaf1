import CalendarRelay.Proofs.Except
import CalendarRelay.Proofs.Overlay
import CalendarRelay.Proofs.Utf8
import CalendarRelay.Settings.Basic

namespace CalendarRelay

namespace Settings

open Value Write Text

variable {α : Type}

section Reading

variable {ls : List Layer} {as? : Value → Option α} {builtIn a : α}

end Reading

section Variables

end Variables

section Layer

variable {s : Sources} {name : String}

end Layer

end Settings

end CalendarRelay
