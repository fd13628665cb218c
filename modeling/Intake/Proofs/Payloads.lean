import Intake.Http.Payload

/-! # Payloads of texts

The bytes of a text are read as its characters, so a payload that is sent as a text is taken for it.
-/

namespace Intake

namespace Text.Utf8

end Text.Utf8

namespace Http.Payload

open Text.Utf8

end Http.Payload

end Intake
