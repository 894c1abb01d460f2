import DeckEdit.Text.Basic

/-! Lines of a text. -/

namespace DeckEdit
namespace Text

/-- The text with every line break, of one code point or two, as a line feed. `afterReturn` says that
    a carriage return stands right before. -/
def withLineFeeds (afterReturn : Bool) (taken : Text) : Text → Text
  | [] => taken.reverse
  | c :: rest =>
    if c = '\r' then withLineFeeds true ('\n' :: taken) rest
    else if c = '\n' then withLineFeeds false (if afterReturn then taken else c :: taken) rest
    else withLineFeeds false (c :: taken) rest

/-- The text as it is read from a file: every line break is a line feed. -/
def normalizeLines (t : Text) : Text :=
  withLineFeeds false [] t

def splitOn (separator : CodePoint) : Text → List Text
  | [] => [[]]
  | c :: rest =>
    if c = separator then [] :: splitOn separator rest
    else
      match splitOn separator rest with
      | part :: parts => (c :: part) :: parts
      | [] => [[c]]

end Text
end DeckEdit
