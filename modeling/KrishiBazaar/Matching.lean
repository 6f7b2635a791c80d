import KrishiBazaar.Prices
import Mathlib.Data.List.Infix
import Mathlib.Data.Prod.Lex
/-!
# Matching — buyers ranked for a lot

`app/services/matching_engine.py`.  A buyer gets points for each criterion, and the ranking is a
stable sort by score and then by distance.  A distance of zero counts as no distance there, since `0.0 or 10**9` is
`10**9`.  Prices and quantities are compared as they are stored: no two numbers that the columns hold are one `float`.
-/
namespace Krishi

open Lib

/-- What a reply needs beyond the alert checker: Python's text functions, and the distance of two places on a globe. -/
structure ReplyConfig extends CheckConfig where
  /-- `str.isspace` on one character. -/
  isSpace : Char → Bool
  upper : String → String
  lower : String → String
  /-- `2 * r * atan2(sqrt(a), sqrt(1 - a))`, in kilometres. -/
  greatCircle : ℚ → ℚ → ℚ → ℚ → ℚ

def haversineKm (cfg : ReplyConfig) (lat1 lng1 lat2 lng2 : Option ℚ) : Option ℚ :=
  match lat1, lng1, lat2, lng2 with
  | some lat1, some lng1, some lat2, some lng2 =>
    some (cfg.arith.round (roundTo 1 (cfg.greatCircle lat1 lng1 lat2 lng2)))
  | _, _, _, _ => none

inductive MatchReason
  | sameDistrict | nearby25km | within80km | farBuyer | verifiedBuyer | priceCoversAsk | bidBelowAsk | volumeFit
  | reliablePayer | unreliablePayer | gradeMatch
  deriving DecidableEq, Repr

def Grade.text : Grade → String
  | .faq => "FAQ"
  | .general => "General"
  | .special => "Special"

structure MatchRow where
  buyerId : Uuid
  buyerName : String
  buyerType : BuyerType
  verified : Bool
  district : Option String
  score : ℚ
  reasons : List MatchReason
  maxPrice : Option ℚ
  demandQtyQtl : Option ℚ
  paymentReliability : Option Reliability
  qualityRequirements : Option String
  distanceKm : Option ℚ
  summary : String
  deriving DecidableEq

/-! ## The criteria -/

/-- The points of a criterion, and what it says of the buyer. -/
abbrev Points := ℚ × List MatchReason

def districtPoints (district : String) (buyer : Buyer) : Points :=
  if buyer.district.any (fun d => d ≠ "" ∧ d = district) then (25, [.sameDistrict]) else (0, [])

def distancePoints (ar : Arith) (dist : Option ℚ) : Points :=
  match dist with
  | none => (0, [])
  | some dist =>
    let near := if dist ≤ 100 then ar.round (roundTo 1 (ar.mul 35 (ar.sub 1 (ar.div dist 100)))) else 0
    if dist ≤ 25 then (near, [.nearby25km])
    else if dist ≤ 80 then (near, [.within80km])
    else if 100 < dist then (near - 15, [.farBuyer])
    else (near, [])

def verifiedPoints (buyer : Buyer) : Points := if buyer.verified then (15, [.verifiedBuyer]) else (0, [])

def askPoints (asking maxPrice : Option ℚ) : Points :=
  match asking, maxPrice with
  | some asking, some maxPrice => if asking ≤ maxPrice then (20, [.priceCoversAsk]) else (-15, [.bidBelowAsk])
  | _, _ => (0, [])

def volumePoints (demand : Option ℚ) (qty : ℚ) : Points :=
  if demand.any (fun demand => qty ≤ demand) then (15, [.volumeFit]) else (0, [])

def reliabilityPoints (rel : Option Reliability) : Points :=
  match rel with
  | some .high => (10, [.reliablePayer])
  | some .low => (-15, [.unreliablePayer])
  | _ => (0, [])

/-- The lot's grade occurs in what the buyer asks for. -/
def gradePoints (cfg : ReplyConfig) (lot : Lot) (buyer : Buyer) : Points :=
  let grade := cfg.lower lot.grade.text
  let req := cfg.lower (buyer.qualityRequirements.getD "")
  if grade ≠ "" ∧ req ≠ "" ∧ grade.toList <:+: req.toList then (10, [.gradeMatch]) else (0, [])

/-- A number with one decimal, as Python prints it. -/
def tenthsText (x : ℚ) : String :=
  let n := (pyRound (x * 10)).natAbs
  (if x < 0 then "-" else "") ++ toString (n / 10) ++ "." ++ toString (n % 10)

def summarize (name : String) (dist : Option ℚ) (reasons : List MatchReason) : String :=
  let bits := (dist.map (fun d => tenthsText d ++ " km")).toList
    ++ (if .sameDistrict ∈ reasons then ["same district"] else [])
    ++ (if .priceCoversAsk ∈ reasons then ["covers your ask"]
        else if .bidBelowAsk ∈ reasons then ["bid below ask"] else [])
    ++ (if .reliablePayer ∈ reasons then ["reliable payer"] else [])
    ++ (if .volumeFit ∈ reasons then ["wants your volume"] else [])
  let whereabouts := if bits = [] then "verified buyer" else ", ".intercalate bits
  if name ≠ "" then "Best local buyer: " ++ name ++ " (" ++ whereabouts ++ ")." else whereabouts

/-- A ranked row, or none if the buyer is not a candidate. -/
def scoreBuyer (cfg : ReplyConfig) (lot : Lot) (profile : ProfileRow) (buyer : Buyer) : Option MatchRow :=
  if ¬ buyer.verified then none
  else if buyer.commodityId.any (· ≠ lot.commodityId) then none
  else
    let district := (profile.district.filter (· ≠ "")).getD "Nashik"
    let dist := haversineKm cfg profile.lat profile.lng buyer.lat buyer.lng
    let criteria := [districtPoints district buyer, distancePoints cfg.arith dist, verifiedPoints buyer,
      askPoints lot.askingPrice buyer.maxPrice, volumePoints buyer.demandQtyQtl lot.quantityQtl,
      reliabilityPoints buyer.paymentReliability, gradePoints cfg lot buyer]
    let reasons := criteria.flatMap Prod.snd
    some
      { buyerId := buyer.id, buyerName := buyer.name, buyerType := buyer.type, verified := true,
        district := buyer.district, score := cfg.arith.round (roundTo 1 (cfg.arith.total (criteria.map Prod.fst))),
        reasons := reasons,
        maxPrice := buyer.maxPrice, demandQtyQtl := buyer.demandQtyQtl,
        paymentReliability := buyer.paymentReliability, qualityRequirements := buyer.qualityRequirements,
        distanceKm := dist, summary := summarize buyer.name dist reasons }

/-- `(x["score"], -(x["distance_km"] or 10**9))`. -/
def MatchRow.rank (r : MatchRow) : ℚ ×ₗ ℚ := toLex (r.score, -((r.distanceKm.filter (· ≠ 0)).getD 1000000000))

def rankBuyers (cfg : ReplyConfig) (lot : Lot) (profile : ProfileRow) (buyers : List Buyer) (limit : Nat) :
    List MatchRow :=
  ((buyers.filterMap (scoreBuyer cfg lot profile)).insertionSort (fun a b => b.rank ≤ a.rank)).take limit

/-! ## Who is ranked -/

section Rank

variable {cfg : ReplyConfig} {lot : Lot} {profile : ProfileRow} {row : MatchRow}

theorem scoreBuyer_some {buyer : Buyer} (h : scoreBuyer cfg lot profile buyer = some row) :
    buyer.verified = true ∧ (∀ c ∈ buyer.commodityId, c = lot.commodityId) ∧ row.buyerId = buyer.id ∧
      row.buyerName = buyer.name := by
  unfold scoreBuyer at h
  split at h
  · cases h
  · rename_i hv
    split at h
    · cases h
    · rename_i hc
      obtain rfl := Option.some.inj h
      refine ⟨by simpa using hv, fun c hb => ?_, rfl, rfl⟩
      by_contra hne
      exact hc ((Option.any_eq_true _ _).2 ⟨c, hb, by simpa using hne⟩)

end Rank

end Krishi
