import JsxGen.Text.Case
import JsxGen.Text.Cluster

/-! Words of a name, found at separators and changes of case, and the Pascal case form made of them. -/

namespace JsxGen.Text

inductive Letter where
  | upper | lower | digit | separator | other
  deriving DecidableEq

/-- A cluster has a case if its two case forms differ and it equals one of them. -/
def letter (cluster : List Char) : Letter :=
  let up := cluster.flatMap Text.upper
  let low := cluster.flatMap Text.lower
  if cluster = ['-'] || cluster = ['_'] || cluster = [' '] then .separator
  else if cluster.all Char.isDigit then .digit
  else if up = low then .other
  else if cluster = up then .upper
  else if cluster = low then .lower
  else .other

/-- Whether a word starts at `here`, with `before` ahead of it and `after` behind it. -/
def startsWord (before here : Letter) (after : Option Letter) : Bool :=
  match before, here with
  | .lower, .upper | .upper, .digit | .digit, .upper | .digit, .lower | .lower, .digit => true
  | .upper, .upper => after = some .lower
  | _, _ => false

/-- The words of a list of clusters; `word` is the one being read, latest cluster first. -/
def wordsFrom (word : List (List Char)) (before : Letter) :
    List (Letter × List Char) → List (List (List Char))
  | [] => [word.reverse]
  | (here, cluster) :: rest =>
    if here = .separator then word.reverse :: wordsFrom [] here rest
    else if startsWord before here (rest.head?.map Prod.fst) then
      word.reverse :: wordsFrom [cluster] here rest
    else wordsFrom (cluster :: word) here rest

def words (s : String) : List (List Char) :=
  let marked := (clusters s).map fun cluster => (letter cluster, cluster)
  ((wordsFrom [] .separator marked).map List.flatten).filter (!·.isEmpty)

def pascalWord : List Char → List Char
  | [] => []
  | c :: cs => upper c ++ cs.flatMap lower

def pascal (s : String) : String :=
  String.ofList ((words s).flatMap pascalWord)

end JsxGen.Text
