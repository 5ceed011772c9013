-- Target species, named by their PDG particle codes. A nucleus with `Z` protons and `A`
-- nucleons has the ten-digit code `1 000 000 000 + 10 000 · Z + 10 · A` (a last digit other
-- than zero marks an excited state). The free proton and neutron keep their own codes.

namespace FluxAverage

/-- A particle species by its PDG code, a 32-bit signed integer. -/
structure Species where
  pdg : Int
  deriving Repr, Inhabited, DecidableEq, Hashable

namespace Species

/-- The least code of a nucleus. -/
def nuclearBase : Int := 1000000000

/-- The first code past the nuclei without strange quarks. -/
def nuclearLimit : Int := 1010000000

/-- The free proton. -/
def proton : Species := ⟨2212⟩

/-- The free neutron. -/
def neutron : Species := ⟨2112⟩

instance : Ord Species := ⟨fun a b => compare a.pdg b.pdg⟩

instance : LT Species := ⟨fun a b => a.pdg < b.pdg⟩

instance (a b : Species) : Decidable (a < b) := inferInstanceAs (Decidable (a.pdg < b.pdg))

/-- Whether the code lies in the range of nuclei. -/
def isNucleus (s : Species) : Bool := nuclearBase ≤ s.pdg && s.pdg < nuclearLimit

/-- The mass number `A`: three digits of a nuclear code; one for a free nucleon; zero for
anything else. -/
def massNumber (s : Species) : Nat :=
  if s.isNucleus then s.pdg.natAbs / 10 % 1000
  else if s = proton ∨ s = neutron then 1
  else 0

/-- The atomic number `Z`: three digits of a nuclear code; one for the proton; zero for
anything else. -/
def atomicNumber (s : Species) : Nat :=
  if s.isNucleus then s.pdg.natAbs / 10000 % 1000
  else if s = proton then 1
  else 0

/-- The neutron number `N = A - Z`, zero when `Z` exceeds `A`. -/
def neutronNumber (s : Species) : Nat := s.massNumber - s.atomicNumber

/-- A result of checked 32-bit signed arithmetic: the value if it fits, none on overflow. -/
def checkedI32 (x : Int) : Option Int :=
  if -2147483648 ≤ x ∧ x < 2147483648 then some x else none

/-- The nucleus with `z` protons and `a` nucleons, if `1 ≤ a ≤ 999` and `z ≤ a`. Both counts
become 32-bit signed integers and the code is built in checked 32-bit arithmetic, the proton
field first. -/
def ofZA? (z a : Nat) : Option Species :=
  if z > a ∨ a = 0 ∨ a ≥ 1000 then none
  else do
    let z ← checkedI32 z
    let a ← checkedI32 a
    let withZ ← checkedI32 (nuclearBase + (← checkedI32 (z * 10000)))
    let code ← checkedI32 (withZ + (← checkedI32 (a * 10)))
    return ⟨code⟩

/-- The code as text. -/
def toText (s : Species) : String := toString s.pdg

end Species

end FluxAverage
