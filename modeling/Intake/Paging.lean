import Intake.Text.Blank
import Intake.Text.Digits

/-! # Pages of a listing

A listing is asked for by parameters in text form; what is no number counts as not given.
`PageLimits.resolve` settles how many records a page holds and how many are passed over.
-/

namespace Intake

structure ListQuery where
  limit? : Option Nat := none
  offset? : Option Nat := none
  productId? : Option String := none
deriving DecidableEq

structure PageLimits where
  /-- What a listing gets that asks for no limit, or for none at all. -/
  standard : Nat := 10
  greatest : Nat := 100
deriving DecidableEq

structure Page where
  limit : Nat
  offset : Nat
deriving DecidableEq

namespace ListQuery

def number? (params : List (String × String)) (key : String) : Option Nat :=
  (params.lookup key).bind fun text => Text.word64? (Text.trim text.toList)

/-- An empty product is no filter. -/
def ofParams (params : List (String × String)) : ListQuery where
  limit? := number? params "limit"
  offset? := number? params "offset"
  productId? := (params.lookup "product_id").filter (· ≠ "")

end ListQuery

def PageLimits.resolve (limits : PageLimits) (query : ListQuery) : Page :=
  let wanted := match query.limit? with
    | none => limits.standard
    | some 0 => limits.standard
    | some n => n
  ⟨min wanted limits.greatest, query.offset?.getD 0⟩

/-- The records of one page. -/
def Page.cut {α : Type} (page : Page) (rows : List α) : List α :=
  (rows.drop page.offset).take page.limit

end Intake
