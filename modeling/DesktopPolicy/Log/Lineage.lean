-- Lines of descent among loggers. A logger without a level and without handlers of its own takes them
-- from the loggers above it. What stands before a dot in its name may name one of these. The name is
-- read from its end, and behind a dot the next character is passed over, so that of two dots side by
-- side the left one leads nowhere, unless a logger was called by the name before the right one.
import DesktopPolicy.Log.Record

namespace DesktopPolicy.Log

/-- The way up from a logger comes to the package. The name of the logger is read from its end; a
logger that was called is where the way goes on from. -/
def leadsUp (called : String → Bool) : List Char → Bool
  | [] | [_] => false
  | c :: d :: further =>
    if c == '.' then
      let upper := String.ofList (d :: further).reverse
      if upper == package then true
      else if called upper then leadsUp called (d :: further)
      else leadsUp called further
    else leadsUp called (d :: further)

/-- The logger is the package's own, or takes its level and its handlers from there. -/
def isHeir (called : String → Bool) (logger : String) : Bool :=
  logger == package || leadsUp called logger.toList.reverse

end DesktopPolicy.Log
