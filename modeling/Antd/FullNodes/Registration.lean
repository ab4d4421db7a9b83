import Antd.FullNodes.Rules

/-! `full_nodes::convert_registration_args` (`src/cryptonote_core/full_node_list.cpp`):
the arguments of a registration command, `<operator cut> <address> <fraction>
[<address> <fraction> [...]]`, turned into the contributors' addresses and
portions. The parsing of an address and `boost::lexical_cast<uint64_t>` are
parameters.

A contributor below the least contribution by no more than the dust takes
portions from the excess of the others; one below it by more is passed over
by a `continue`, with no error, so that a converted registration can hold
fewer contributors than its arguments name. Taking from a contributor not yet
pushed to `result.portions` writes past the end of that vector, undefined
behaviour, which the model returns as `none`. -/

namespace Antd.FullNodes

open Antd.Cryptonote

/-- `address_parse_info`, without the payment id no function here reads. -/
structure AddressParseInfo where
  address : AccountPublicAddress
  isSubaddress : Bool
  hasPaymentId : Bool

structure ConvertedRegistrationArgs where
  success : Bool
  addresses : List AccountPublicAddress
  portions : List UInt64
  portionsForOperator : UInt64
  errMsg : String

structure AddrToPortion where
  info : AddressParseInfo
  portions : UInt64

section Convert

variable (getAccountAddressFromStr : String → Option AddressParseInfo)
  (lexicalCast : String → Option UInt64)

/-- The first loop: each `<address> <fraction>` pair parsed, or the error of
the first pair that does not parse. -/
def parseContributors : List String → Except String (List AddrToPortion)
  | address :: fraction :: rest =>
      match getAccountAddressFromStr address with
      | none => .error ("Failed to parse address: " ++ address)
      | some info =>
          if info.hasPaymentId then .error "Can't use a payment id for staking tx"
          else if info.isSubaddress then .error "Can't use a subaddress for staking tx"
          else
            match lexicalCast fraction with
            | none => .error ("Invalid amount for contributor: " ++ address ++
                ", with portion amount that could not be converted to a number: " ++ fraction)
            | some numPortions =>
                (parseContributors rest).map fun parsed => ⟨info, numPortions⟩ :: parsed
  | _ => .ok []

/-- The excess of each contributor over its least contribution, the reserved
amount counted from the contributors before it. -/
def excessPortionsOf (hfVersion : Nat) (stakingRequirement : UInt64) :
    Nat → UInt64 → List AddrToPortion → List UInt64
  | _, _, [] => []
  | index, antdReserved, addrToPortion :: rest =>
      let minContributionPortions :=
        getMinNodeContributionInPortions hfVersion stakingRequirement antdReserved index
      let antdAmount := portionsToAmount stakingRequirement addrToPortion.portions
      let excess := if addrToPortion.portions > minContributionPortions then
          addrToPortion.portions - minContributionPortions else 0
      excess :: excessPortionsOf hfVersion stakingRequirement (index + 1) (antdReserved + antdAmount) rest

/-- What the loop that takes dust changes. -/
structure StealState where
  portions : UInt64
  needed : UInt64
  portionsToSteal : UInt64
  excessPortions : List UInt64
  resultPortions : List UInt64

/-- The loop over `sub_index` that takes the dust contributor `i` needs from
the excess of the others; `none` where it writes `result.portions[sub_index]`
past the end of the vector. -/
def stealDust (i : Nat) : List Nat → StealState → Option StealState
  | [], s => some s
  | subIndex :: rest, s =>
      if i = subIndex then stealDust i rest s
      else
        let contributorExcess := s.excessPortions.getD subIndex 0
        if contributorExcess > 0 then
          if subIndex < s.resultPortions.length then
            let portionsToSteal := min s.needed contributorExcess
            let s : StealState :=
              { portions := s.portions + portionsToSteal
                needed := s.needed - portionsToSteal
                portionsToSteal := portionsToSteal
                excessPortions := s.excessPortions.set subIndex (contributorExcess - portionsToSteal)
                resultPortions := s.resultPortions.modify subIndex (· - portionsToSteal) }
            if s.needed = 0 then some s else stealDust i rest s
          else none
        else stealDust i rest s

/-- What the main loop keeps: the excess portions, the portions left, the
amount reserved, and the addresses and portions pushed so far. -/
structure RegistrationState where
  excessPortions : List UInt64
  portionsLeft : UInt64
  totalReserved : UInt64
  addresses : List AccountPublicAddress
  portions : List UInt64

/-- The end of one pass of the main loop: the checks of the contributor's
portions, and then the push of its address and portions. -/
def acceptContribution (args : List String) (stakingRequirement : UInt64) (i : Nat) (minPortions : UInt64)
    (address : AccountPublicAddress) (portions portionsToSteal : UInt64) (s : RegistrationState) :
    Except String RegistrationState :=
  if portions < minPortions ∨ portions - portionsToSteal > s.portionsLeft then
    .error ("Invalid amount for contributor: " ++ args.getD i "" ++ ", with portion amount: " ++
      args.getD (i + 1) "" ++ ". The contributors must each have at least 25%, except for the last " ++
      "contributor which may have the remaining amount")
  else if minPortions = 0xFFFFFFFFFFFFFFFF then
    .error ("Too many contributors specified, you can only split a node with up to: " ++
      toString maxNumberOfContributors ++ " people.")
  else
    .ok { s with
      portionsLeft := s.portionsLeft - portions + portionsToSteal
      addresses := s.addresses ++ [address]
      portions := s.portions ++ [portions]
      totalReserved := s.totalReserved + portionsToAmount portions stakingRequirement }

/-- The main loop over the contributors, from index `i` on: the state when it
ends, and the error of an early return, if there is one; `none` on undefined
behaviour. -/
def registrationLoop (args : List String) (hfVersion : Nat) (stakingRequirement : UInt64) (count : Nat) :
    Nat → List AddrToPortion → RegistrationState → Option (RegistrationState × Option String)
  | _, [], s => some (s, none)
  | i, addrToPortion :: rest, s =>
      let minPortions := getMinNodeContributionInPortions hfVersion stakingRequirement s.totalReserved i
      let accepted (portions portionsToSteal : UInt64) (s : RegistrationState) :=
        match acceptContribution args stakingRequirement i minPortions addrToPortion.info.address portions
            portionsToSteal s with
        | .error msg => some (s, some msg)
        | .ok s => registrationLoop args hfVersion stakingRequirement count (i + 1) rest s
      if addrToPortion.portions < minPortions then
        let needed := minPortions - addrToPortion.portions
        let dust := stakingPortions / stakingRequirement * 10
        if needed > dust then registrationLoop args hfVersion stakingRequirement count (i + 1) rest s
        else
          match stealDust i (List.range count)
              ⟨addrToPortion.portions, needed, 0, s.excessPortions, s.portions⟩ with
          | none => none
          | some stolen =>
              let portions :=
                if stolen.needed > 0 ∧ count < maxNumberOfContributors * maxKeyImagesPerContributor then
                  stolen.portions + stolen.needed
                else stolen.portions
              accepted portions stolen.portionsToSteal
                { s with excessPortions := stolen.excessPortions, portions := stolen.resultPortions }
      else accepted addrToPortion.portions 0 s

def convertRegistrationArgs (args : List String) (stakingRequirement : UInt64) (hfVersion : Nat) :
    Option ConvertedRegistrationArgs :=
  let result : ConvertedRegistrationArgs := ⟨false, [], [], 0, ""⟩
  let invalidPortion := "Invalid portion amount: " ++ args.getD 0 "" ++ ". Must be between 0 and " ++
    toString stakingPortions
  if args.length % 2 = 0 ∨ args.length < 3 then
    some { result with errMsg := "Usage: <operator cut> <address> <fraction> [<address> <fraction> [...]]]" }
  else if (args.length - 1) / 2 > maxNumberOfContributors then
    some { result with
      errMsg := "Exceeds the maximum number of contributors, which is " ++ toString maxNumberOfContributors }
  else
    match lexicalCast (args.getD 0 "") with
    | none => some { result with errMsg := invalidPortion }
    | some portionsForOperator =>
        let result := { result with portionsForOperator := portionsForOperator }
        if portionsForOperator > stakingPortions then some { result with errMsg := invalidPortion }
        else
          match parseContributors getAccountAddressFromStr lexicalCast (args.drop 1) with
          | .error msg => some { result with errMsg := msg }
          | .ok addrToPortions =>
              let excessPortions := excessPortionsOf hfVersion stakingRequirement 0 0 addrToPortions
              let looped := registrationLoop args hfVersion stakingRequirement addrToPortions.length 0
                addrToPortions ⟨excessPortions, stakingPortions, 0, [], []⟩
              looped.map fun (s, errMsg) =>
                { result with
                  success := errMsg.isNone
                  addresses := s.addresses
                  portions := s.portions
                  errMsg := errMsg.getD "" }

end Convert

/-! ### The loops -/

section Loops

variable {getAccountAddressFromStr : String → Option AddressParseInfo} {lexicalCast : String → Option UInt64}

theorem length_parseContributors : ∀ {rest : List String} {parsed : List AddrToPortion},
    parseContributors getAccountAddressFromStr lexicalCast rest = .ok parsed → parsed.length = rest.length / 2
  | address :: fraction :: rest, parsed, ok => by
      unfold parseContributors at ok
      split at ok
      · cases ok
      · split_ifs at ok
        split at ok
        · cases ok
        · rename_i numPortions _
          cases tail : parseContributors getAccountAddressFromStr lexicalCast rest with
          | error msg => rw [tail] at ok; cases ok
          | ok restParsed =>
              rw [tail] at ok
              cases ok
              rw [List.length_cons, length_parseContributors tail, List.length_cons, List.length_cons]
              omega
  | [], _, ok => by cases ok; rfl
  | [_], _, ok => by cases ok; simp

theorem length_stealDust {i : Nat} : ∀ {subIndices : List Nat} {s stolen : StealState},
    stealDust i subIndices s = some stolen → stolen.resultPortions.length = s.resultPortions.length
  | [], _, _, stolen => by cases stolen; rfl
  | subIndex :: rest, s, stolen, taken => by
      unfold stealDust at taken
      dsimp only at taken
      split_ifs at taken with same positive inRange finished
      · exact length_stealDust taken
      · cases taken
        exact List.length_modify _ _ _
      · exact (length_stealDust taken).trans (List.length_modify _ _ _)
      · exact length_stealDust taken

theorem acceptContribution_ok {args : List String} {stakingRequirement : UInt64} {i : Nat}
    {minPortions : UInt64} {address : AccountPublicAddress} {portions portionsToSteal : UInt64}
    {s s' : RegistrationState}
    (accepted : acceptContribution args stakingRequirement i minPortions address portions portionsToSteal s =
      .ok s') :
    s'.addresses = s.addresses ++ [address] ∧ s'.portions = s.portions ++ [portions] := by
  unfold acceptContribution at accepted
  split_ifs at accepted
  cases accepted
  exact ⟨rfl, rfl⟩

theorem registrationLoop_lengths {args : List String} {hfVersion : Nat} {stakingRequirement : UInt64}
    {count : Nat} : ∀ {i : Nat} {contributors : List AddrToPortion} {s s' : RegistrationState}
      {errMsg : Option String},
      registrationLoop args hfVersion stakingRequirement count i contributors s = some (s', errMsg) →
      s.addresses.length = s.portions.length →
      s'.addresses.length = s'.portions.length ∧ s'.addresses.length ≤ s.addresses.length + contributors.length
  | _, [], s, s', _, looped, paired => by
      cases looped
      exact ⟨paired, Nat.le_add_right _ _⟩
  | i, addrToPortion :: rest, s, s', errMsg, looped, paired => by
      have continued : ∀ (portions portionsToSteal : UInt64) (t : RegistrationState),
          t.addresses = s.addresses → t.portions.length = s.portions.length →
          (match acceptContribution args stakingRequirement i
              (getMinNodeContributionInPortions hfVersion stakingRequirement s.totalReserved i)
              addrToPortion.info.address portions portionsToSteal t with
            | .error msg => some (t, some msg)
            | .ok t => registrationLoop args hfVersion stakingRequirement count (i + 1) rest t) =
              some (s', errMsg) →
          s'.addresses.length = s'.portions.length ∧
            s'.addresses.length ≤ s.addresses.length + (addrToPortion :: rest).length := by
        intro portions portionsToSteal t sameAddresses sameLength ended
        split at ended
        · cases ended
          rw [sameAddresses, sameLength, List.length_cons]
          exact ⟨paired, by omega⟩
        · rename_i pushed accepted
          obtain ⟨addresses, portionsPushed⟩ := acceptContribution_ok accepted
          have rest := registrationLoop_lengths ended (by
            rw [addresses, portionsPushed, List.length_append, List.length_append, sameAddresses, sameLength,
              paired, List.length_singleton, List.length_singleton])
          rw [addresses, List.length_append, sameAddresses] at rest
          rw [List.length_cons]
          exact ⟨rest.1, by simp only [List.length_singleton] at rest; omega⟩
      unfold registrationLoop at looped
      dsimp only at looped
      split_ifs at looped with short tooShort
      · have skipped := registrationLoop_lengths looped paired
        rw [List.length_cons]
        exact ⟨skipped.1, by omega⟩
      · split at looped
        · cases looped
        · rename_i stolen taken
          exact continued _ _ { s with excessPortions := stolen.excessPortions, portions := stolen.resultPortions }
            rfl (length_stealDust taken) looped
      · exact continued _ _ _ rfl rfl looped

theorem convertRegistrationArgs_lengths {args : List String} {stakingRequirement : UInt64} {hfVersion : Nat}
    {result : ConvertedRegistrationArgs}
    (converted : convertRegistrationArgs getAccountAddressFromStr lexicalCast args stakingRequirement hfVersion =
      some result) :
    result.addresses.length = result.portions.length ∧ result.addresses.length ≤ (args.length - 1) / 2 := by
  unfold convertRegistrationArgs at converted
  dsimp only at converted
  split_ifs at converted
  · cases converted
    exact ⟨rfl, Nat.zero_le _⟩
  · cases converted
    exact ⟨rfl, Nat.zero_le _⟩
  · split at converted
    · cases converted
      exact ⟨rfl, Nat.zero_le _⟩
    · split_ifs at converted
      · cases converted
        exact ⟨rfl, Nat.zero_le _⟩
      · split at converted
        · cases converted
          exact ⟨rfl, Nat.zero_le _⟩
        · rename_i parsedOk
          obtain ⟨⟨s, errMsg⟩, looped, rfl⟩ := Option.map_eq_some_iff.mp converted
          have lengths := registrationLoop_lengths looped rfl
          rw [length_parseContributors parsedOk, List.length_drop] at lengths
          exact ⟨lengths.1, by simpa using lengths.2⟩

end Loops

/-- A contributor short of the least contribution by more than the dust is
passed over without an error: the registration of one such contributor
converts, with success, to no contributor at all. -/
theorem convertRegistrationArgs_passes_over_short_contributor
    (getAccountAddressFromStr : String → Option AddressParseInfo) (lexicalCast : String → Option UInt64)
    {operatorCut address fraction : String} {stakingRequirement : UInt64} {hfVersion : Nat}
    {info : AddressParseInfo} {portionsForOperator portions : UInt64}
    (parsed : getAccountAddressFromStr address = some info) (noPaymentId : info.hasPaymentId = false)
    (notSubaddress : info.isSubaddress = false) (castCut : lexicalCast operatorCut = some portionsForOperator)
    (cutInRange : portionsForOperator ≤ stakingPortions) (castFraction : lexicalCast fraction = some portions)
    (short : portions < getMinNodeContributionInPortions hfVersion stakingRequirement 0 0)
    (beyondDust : getMinNodeContributionInPortions hfVersion stakingRequirement 0 0 - portions >
      stakingPortions / stakingRequirement * 10) :
    convertRegistrationArgs getAccountAddressFromStr lexicalCast [operatorCut, address, fraction]
      stakingRequirement hfVersion = some ⟨true, [], [], portionsForOperator, ""⟩ := by
  have pair : parseContributors getAccountAddressFromStr lexicalCast [address, fraction] =
      .ok [⟨info, portions⟩] := by
    simp [parseContributors, parsed, noPaymentId, notSubaddress, castFraction, Except.map]
  have passedOver : ∀ excess, registrationLoop [operatorCut, address, fraction] hfVersion stakingRequirement 1 0
      [⟨info, portions⟩] ⟨excess, stakingPortions, 0, [], []⟩ = some (⟨excess, stakingPortions, 0, [], []⟩, none) := by
    intro excess
    rw [registrationLoop]
    dsimp only
    rw [if_pos short, if_pos beyondDust, registrationLoop]
  have notAbove : ¬portionsForOperator > stakingPortions := UInt64.not_lt.mpr cutInRange
  unfold convertRegistrationArgs
  simp [maxNumberOfContributors, castCut, notAbove, pair, passedOver]

def zeroCast (s : String) : Option UInt64 := if s = "0" then some 0 else none

/-- A `get_account_address_from_str` that knows one address string, for the
null address without payment id or subaddress. -/
def nullAddressParse (s : String) : Option AddressParseInfo :=
  if s = "address" then some ⟨nullAddress, false, false⟩ else none

theorem contributor_without_stake_converts_to_no_contributor :
    convertRegistrationArgs nullAddressParse zeroCast ["0", "address", "0"] 100 11 =
      some ⟨true, [], [], 0, ""⟩ := by
  have quarter : getMinNodeContribution 11 100 0 0 = 25 := by decide
  have inPortions : getMinNodeContributionInPortions 11 100 0 0 = getPortionsToMakeAmount 100 25 := by
    unfold getMinNodeContributionInPortions
    rw [quarter, if_neg (by decide)]
  have minimum : (getPortionsToMakeAmount 100 25).toNat =
      ((25 : UInt64).toNat * stakingPortions.toNat + ((100 : UInt64).toNat - 1)) / (100 : UInt64).toNat % 2 ^ 64 :=
    getPortionsToMakeAmount_toNat 25 (by decide)
  exact convertRegistrationArgs_passes_over_short_contributor nullAddressParse zeroCast rfl rfl rfl rfl
    (by decide) rfl (by rw [inPortions, UInt64.lt_iff_toNat_lt, minimum]; decide)
    (by rw [inPortions, UInt64.sub_zero, gt_iff_lt, UInt64.lt_iff_toNat_lt, minimum]; decide)

end Antd.FullNodes
