-- Ends of lines, made uniform: files tell them with one of two characters, or with both.
namespace DesktopPolicy.Text

/-- The text with one newline for every end of a line. -/
def uniformBreaks : List Char → List Char
  | [] => []
  | '\r' :: '\n' :: rest => '\n' :: uniformBreaks rest
  | '\r' :: rest => '\n' :: uniformBreaks rest
  | c :: rest => c :: uniformBreaks rest

end DesktopPolicy.Text
