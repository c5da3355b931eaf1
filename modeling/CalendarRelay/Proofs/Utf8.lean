import CalendarRelay.Text.Utf8

namespace CalendarRelay.Text.Utf8

section

variable {p : Pending} {v : Nat} (bs : List UInt8)

end

end CalendarRelay.Text.Utf8
