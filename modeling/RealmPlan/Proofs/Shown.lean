import RealmPlan.Proofs.Scrape
import RealmPlan.Command

namespace RealmPlan
namespace Command

namespace Listing

end Listing

-- A row of the text as it is read, whatever the width of its first column.
structure Row where
  number : String
  kind : String
  message : String
deriving DecidableEq

-- The number stands in front of a dot, the kind behind it in a column of 22, and the message goes to the end of the
-- row, over several lines if it has to.
def Row.ofText (row : String) : Row :=
  let behind := (row.toList.dropWhile (· != '.')).drop 2
  { number := .ofList ((row.toList.takeWhile (· != '.')).dropWhile (· == ' '))
    kind := .ofList (behind.takeWhile (· != ' '))
    message := .ofList (behind.drop 23).dropLast }

def word? : Json → Option String
  | .text word => some word
  | _ => none

def digitRuns (line : List Char) : List (List Char) := (line.splitOnP (!·.isDigit)).filter (!·.isEmpty)

end Command
end RealmPlan
