/-! # Ranking by quality

Items are ranked from the best to the worst, and items of one quality keep their order. The
items are taken from the last to the first and put into ascending order: the run that they
start with is kept, or turned round where it descends, and each further item goes to the
place that halving finds, after the items that are not better. The places that are compared
matter only for qualities that compare with nothing.
-/
namespace Localization.Negotiation

variable {α : Type}

def spanDescending (lt : α → α → Bool) : α → List α → List α × List α
  | _, [] => ([], [])
  | last, next :: rest =>
    if lt next last then
      let (run, rest) := spanDescending lt next rest
      (next :: run, rest)
    else ([], next :: rest)

def spanAscending (lt : α → α → Bool) : α → List α → List α × List α
  | _, [] => ([], [])
  | last, next :: rest =>
    if lt next last then ([], next :: rest)
    else
      let (run, rest) := spanAscending lt next rest
      (next :: run, rest)

/-- The run that a list starts with, in ascending order, and what follows it. -/
def firstRun (lt : α → α → Bool) : List α → List α × List α
  | [] => ([], [])
  | [a] => ([a], [])
  | a :: b :: rest =>
    if lt b a then
      let (run, rest) := spanDescending lt b rest
      ((a :: b :: run).reverse, rest)
    else
      let (run, rest) := spanAscending lt b rest
      (a :: b :: run, rest)

def placeBetween (lt : α → α → Bool) (items : List α) (item : α) (low high : Nat) : Nat :=
  if _ : low < high then
    let middle := low + (high - low) / 2
    match items[middle]? with
    | some other =>
      if lt item other then placeBetween lt items item low middle
      else placeBetween lt items item (middle + 1) high
    | none => low
  else low
termination_by high - low

def place (lt : α → α → Bool) (items : List α) (item : α) : List α :=
  let k := placeBetween lt items item 0 items.length
  items.take k ++ item :: items.drop k

def ascending (lt : α → α → Bool) (items : List α) : List α :=
  let (run, rest) := firstRun lt items
  rest.foldl (place lt) run

def ranked (lt : α → α → Bool) (items : List α) : List α := (ascending lt items.reverse).reverse

end Localization.Negotiation
