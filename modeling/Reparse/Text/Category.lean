import Reparse.Text.CharacterSet

namespace Reparse

inductive Category where
  | Lu | Ll | Lt | Lm | Lo
  | Mn | Mc | Me
  | Nd | Nl | No
  | Pc | Pd | Ps | Pe | Pi | Pf | Po
  | Sm | Sc | Sk | So
  | Zs | Zl | Zp
  | Cc | Cf | Cs | Co | Cn
deriving DecidableEq, Inhabited

namespace Category

def all : List Category :=
  [.Lu, .Ll, .Lt, .Lm, .Lo, .Mn, .Mc, .Me, .Nd, .Nl, .No, .Pc, .Pd, .Ps, .Pe, .Pi, .Pf, .Po, .Sm,
    .Sc, .Sk, .So, .Zs, .Zl, .Zp, .Cc, .Cf, .Cs, .Co, .Cn]

def name : Category → String
  | .Lu => "Lu" | .Ll => "Ll" | .Lt => "Lt" | .Lm => "Lm" | .Lo => "Lo"
  | .Mn => "Mn" | .Mc => "Mc" | .Me => "Me"
  | .Nd => "Nd" | .Nl => "Nl" | .No => "No"
  | .Pc => "Pc" | .Pd => "Pd" | .Ps => "Ps" | .Pe => "Pe" | .Pi => "Pi" | .Pf => "Pf" | .Po => "Po"
  | .Sm => "Sm" | .Sc => "Sc" | .Sk => "Sk" | .So => "So"
  | .Zs => "Zs" | .Zl => "Zl" | .Zp => "Zp"
  | .Cc => "Cc" | .Cf => "Cf" | .Cs => "Cs" | .Co => "Co" | .Cn => "Cn"

/-- The runs from code point zero on.  A letter, `A` to `Z` and then `a` to `d`, names a category in
the order of `all`; the number after it is the length of the run, one if there is none.  A plus sign
stands for that many pairs of an uppercase and a lowercase letter.  Blanks only break the lines. -/
def table : String :=
  "Z32WR3TR3NORSRMR2I10R2S3R2A26NROULUB26NSOSZ33WRT4VRUVEPSaVUVSK2UBR2UKEQK3RA23SA7B24SB8+27AB2+7
    AB2+23A2BABAB3A2BABA2BA3B2A4BA2BA3B3A2BA2B+2A2BAB2ABA2BA3BABA2B2EAB3E4ACBACBACB+7AB2+8AB2ACBAB
    A3B+28AB7A2BA2B2ABA4B+3AB69EB27D18U4D12U14D5U7DUDU17F112+2DUABd2DB3RAd4U2ARA3dAdA2BA17dA9B35A
    B2A3B3+11AB5ABSABA2B2A51B48+17VF5H2+27A2B+5AB2+48dA38d2DR6B41RMd2V2TdF45MFRF2RF2RFd8E27d4E4R2
    d11a6S3R2TR2V2F11RaR3E32DE10F21I10R4E2FE99REF7aVF6D2F2VF4E2I10E3V2ER14daEFE30F27d2E89F11Ed14
    I10E33F9D2VR3Dd2FT2E22F4DF9DF3DF5d2R15dE25F3d2RdE11d5E24UE6da2d5F9E41DF24aF32GE54FGFEG3F8G4FG2
    EF7E10F2R2I10RDE15FG2dE8d2E2d2E22dE7dEd3E4d2FEG3F4d2G2d2G2FEd8Gd4E2dE3F2d2I10E2T2K6VTERFd2F2Gd
    E6d4E2d2E22dE7dE2dE2dE2d2FdG3F2d4F2d2F3d3Fd7E4dEd7I10F2E3FRd10F2GdE9dE3dE22dE7dE2dE5d2FEG3F5d
    F2GdG2Fd2Ed15E2F2d2I10RTd7EF6dFG2dE8d2E2d2E22dE7dE2dE5d2FEGFGF4d2G2d2G2Fd7F2Gd4E2dE3F2d2I10VE
    K6d10FEdE6d3E3dE4d3E2dEdE2d3E2d3E3d3E12d4G2FG2d3G3dG3Fd2Ed6Gd14I10K3V6TVd5FG3FE8dE3dE23dE16d2F
    EF3G4dF3dF4d7F2dE3d2Ed2E2F2d2I10d7RK7VEFG2RE8dE3dE23dE10dE5d2FEGFG5dFG2dG2F2d7G2d6E2dE2F2d2I10
    dE2Gd12F2G2E9dE3dE41F2EG3F4dG3dG3FEVd4E3GK7E3F2d2I10K9VE6dFG2dE18d3E24dE9dEd2E7d3Fd4G3F3dFdG8
    d6I10d2G2Rd12E48FE2F7d4TE6DF8RI10R2d37E2dEdE5dE24dEdE10FE2F9Ed2E5dDdF7dI10d2E4d32EV3R15VRV3F2
    V6I10K10VFVFVFNONOG2E8dE36d4F14GF5RF2E5F11dF36dV8FV6dV2R5V4R2d37E43G2F4GF6GF2G2F2EI10R6E6G2F2
    E4F3EG3E2G7E3F4E13FG2F2G6FEGI10G3FV2A38dAd5Ad2B43RDB3E329dE4d2E7dEdE4d2E41dE4d2E33dE4d2E7dEdE4
    d2E15dE57dE4d2E67d2F3R9K20d3E16V10d6A86d2B6d2ME620VRE17WE26NOd3E75R3J3E8d7E18F3Gd9E19F2GR2d9
    E18F2d12E13dE3dF2d12E52F2GF7G8FG2F11R3DR3TEFd2I10d6K10d6R6MR4F3aFI10d6E35DE53d7E5F2E34FEd5E70
    d10E31dF3G4F2G3d4G2FG6F3d4Vd3R2I10E30d2E5d11E44d4E26d6I10Kd3V34E23F2G2Fd2R2E53GFGF7dFGFG2F8G6
    F10d2FI10d6I10d6R7DR6d2F14HF16d49F4GE47FGF5GFG5FG2E8dR2I10R7V10F9V9R3F2GE30GF4G2F2GF3E2I10E44F
    GF2G3FGF3G2d8R4E36G8F8G2F2d3R5I10d3E3I10E30D6R2B9ABd5A43d2A3R8d8F3RF13GF7E4FE6FE2GF2Ed5B44D63
    B13DB34D37F64+74AB9+48AB9A8B6d2A6d2B8A8B8A8B6d2A6d2B8dAdAdAdAB8A8B14d2B8C8B8C8B8C8B5dB2A4CUBU3
    B3dB2A4CU3B4d2B2A4dU3B8A5U3d2B3dB2A4CU2dW11a5M6R2PQNP2QNPR8XYa5WR9PQR4L2R3SNOR11SRLR10Wa5da10K
    Dd2K6S3NODK10S3NOdD13d3T33d15F13H4FH3F12d15V2AV4AV2BA3B2A3BVAV2SA5V6AVAVAVA4VBA4BE4BV2B2A2S5A
    B4VSV2BVK16J35ABJ4KV2d4S5V5S2V4SV2SV2SV7SV31S2V2SVSV31S268V8NONOV20S2V7NOV81SV30S25V40S6V72d22
    V11d21K60V78K22V183SV9SV54S8V111SV248NONONONONONONOK30V44S5NOS31NONONONONOS16V256S131NONONONON
    ONONONONONONOS63NONOS32NOS258V48S21V2S6V39d2V32dV105A48B48ABA3B2+3A4BAB2AB6D2A3B+48AB2V6+2F3AB
    d5R4KR2B38dBd5Bd2E56d7DRd14FE23d9E7dE7dE7dE7dE7dE7dE7dE7dF32R2PQPQR3PQRPQR9MR2MRPQR2PQNONONONO
    R5DR10M2R4MRNR13V2R3NONONONOMd34V26dV89d12V214d26V16WR3VDEJNONONONONOV2NONONONOMNO2VJ9F4G2MD5
    V2J3DERV2dE86d2F2U2D2EME90RD3Ed5E43dE94dV2K4V10E32V38d9VE16V31dK10V30K8VK15V32K10V39K15V320
    E6592V64E21013DE1143d3V55d9E40D6R2E268DR3E16I10E2d20+23EFH3RF10RD+14D2F2E70J10F2R6d8U23D9U2+6A
    B3+31DB8+2A2B+4DU2+2EABAB3+10A5BA5B+7A4BABA2Bd2ABdBdB+3Ad21D3ABED2BE7FE3FE4FE23G2F2GV4Fd3K6V2T
    Vd6E52R4d8G2E50G16F2d8R2I10d6F18E6R3ERE2FI10E28F8R2E23F11G2d11RE29d3F3GE47FG2F4G2F2G3R13dDI10
    d4R2E5FDE9I10E5dE41F6G2F2G2F2d9E3FE8FGd2I10d2R4E16DE6V3EGFGE50FEF3E2F2E5F2EFEd24E2DR2E11GF2G2
    R2ED2GFd10E6d2E6d2E6d9E7dE7dB43UD4B9DU2d4B80E35G2FG2FG2RGFd2I10d6E11172d12E23d4E49d4b2048c6400
    E366d2E106d38B7d12B5d5EFE10SE13dE5dEdE2dE2dE108U17d16E363ONV16E64d2E54d7Vd32E12TV3F16R7NORd6
    F16RM2L2NONONONONONONONOR2NOR4L3R3dR4MNONONOR3SMS3dRTR2d4E5dE135d2adR3TR3NORSRMR2I10R2S3R2A26N
    ROULUB26NSOSNORNOR2E10DE45D2E31d3E6d2E6d2E6d2E3d3T2SUVT2dVS4V2d10a3V2d2E12dE26dE19dE2dE15d2E14
    d34E123d5R3d4K45d3V9J53K4V17K2V3dV13d3Vd47V45Fd130E29d3E49d15FK27d4E32K4d9E20JE8Jd5E38F5d5E30d
    RE36d4E8RJ5d42A40B40E78d2I10d6A36d4B36d4E40d8E52d11RA11dA15dA7dA2dB11dB15dB7dB2d3E52d12E311d9
    E22d10E8d24D6dD42dD9d69E6d2EdE44dE2d3Ed2E23dRK8E23V2K7E31d8K9d48E19dE2d5K5E22K6d3RE26d5Rd64E56
    d4K2E2K16d2K46EF3dF2d5F4E4dE3dE29d2F3d4FK9d7R9d7E29K2RE29K3d32E8VE28F2d4K5R7d9E54d3R7E22d2K8
    E19d5K8E18d7R4d12K7d80E73d55A51d13B51d7K6E36F4d8I10d6I10E4DEA22d3F5MDB22d8S2d208K31dE42dF2Md2
    E2d16E3d55F4E29K10Ed8E22F11K4R5d22E18F4R4d38E21K7d20E23d9GFGE53F15R7d4K20I10FE2F2Ed9F3GE45G3F4
    G2F2R2aR4Fd10ad2E25d7I10d6F3E36F5GF8dI10R4EG2Ed8E35FR2Ed9F2GE48G3F9G2E4R4F4RGFI10ERER3dK20d11
    E18dE25G3F3G2FGF2R6FE2Fd62E7dEdE4dE15dE10Rd6E47FG3F8d5I10d6F2G2dE8d2E2d2E22dE7dE2dE5dF2EG2FG4
    d2G2d2G3d2Ed6Gd5E5G2d2F7d3F5d11E10dEd2EdE38dEG3F6dGd2GdG4dG2FGFEFER2dR2d8F2d29E53G3F8G2F3GFE4
    R5I10R2dRFE3d30E48G3F6GFG4F2GF2E2REd8I10d166E47G3F4d2G4F2GF2R23E4F2d34E48G3F8G2FGF2R3Ed11I10d6
    R13d19E43FGFG2F6GFERd6I10d6I20d28E27d2FGFG2F4GF5d4I10K2R3VE7d185E44G3F9GF2Rd100A32B32I10K9d12
    E8d2Ed2E8dE2dE24G6dG2d2F2GFEGEGFR3d9I10d70E8d2E39G3F4d2F2G4FEREGd27EF10E40F6GEF4R8Fd8EF6G2F3
    E46F13GF2R3ER5d13E73d7R10d182E33Rd14I10d6E9dE37GF7dF6GFER5d10I10K19d3R2E30d2F22dGF7GF2GF2d73E7
    dE2dE38F6d3FdF2dF7EFd8I10d6E6dE2dE32G5dF2dG2FGFEd7I10d310E19F2G2R2d7F2EGE13dE34G2F5d3G2FGFR13
    I10Fd85Ed15K21V8T4V17d13RE922d102J111dR5d11E196d2636E97R2d13E1072a16FE6F15d10E3995d5E583d6841
    E30F12G3F3I10d1734E569d7E31dI10d4R2E79dI10d6E30d2F5Rd10E48F7R5V4D4RVd10I10dK7dE21d5E19d432D3
    E40D2R3I10d198A32B32K23R4d101E75d4FEG55d7F4D13d64D2RDFd11G2d14E6136d8E1238d41E10d8935D4dD7dD2d
    E291d15Ed29E3d2Ed14E4d8E396d2308E107d5E13d3E9d7E10d2VF2Ra4d3932V240I10d6V436d76F46d2F23d9V116
    d60V246d10V39d2V60G2F3V3G6a8F8V2F7V30F4V61d21V66F3Vd122K20d12K20d12V87d9K25d135A26B26A26B7dB18
    A26B26AdA2d2Ad2A2d2A4dA8B4dBdB7dB11A26B26A2dA4d2A8dA7dB26A2dA4dA5dAd3A7dB26A26B26A26B26A26B26
    A26B26A26B26A26B28d2A25SB25SB6A25SB25SB6A25SB25SB6A25SB25SB6A25SB25SB6ABd2I50V512F55V4F50V8F
    V14FV2R5d15F5dF15d1104B10EB20d6B6d213F7dF17d2F7dF2dF5d5D62d33Fd112E45d3F7D7d2I10d4EVd320E30F
    d17E44F4I10d5Td464E27DF4I10d214E30F2EI10d4Rd480E7dE4dE2dE15dE197d2K9F7d41A34B34F7Dd4I10d4R2
    d785K59VK3TK4d76K45VK15d194E4dE27dE2dEd2EdE10dE4dEdEd6Ed4EdEdEdE3dE2dEd2EdEdEdEdEdE2dEd2E4dE7d
    E4dE4dEdE10dE17d5E3dE5dE17d52S2d270V44d4V100d12V15d2V15dV15dV37d10K13V161d56V29d13V44d4V9d7V2
    d14V6d154V251U5V728d4V17d3V13d3V119d4V95d6V12d4Vd15V12d4V56d8V10d6V40d8V30d2V12d4V2d62V340d12
    V14d2V13d3V10d5V56d7V15d2V11d6V9d7V147dV92I10d1030E42720d32E4154d6E222d2E5762d14E7473d15E622
    d2466E542d1506E4939d5E4192d711761ad30a96d128F240d65040c65534d2c65534d2"

def ofTableLetter (letter : Char) : Category :=
  let index :=
    if letter ≤ 'Z' then letter.toNat - 'A'.toNat else letter.toNat - 'a'.toNat + 26
  all[index]?.getD .Cn

def entryRuns (letter : Char) (count : Nat) : List (Category × Nat) :=
  if letter = '+' then
    (List.replicate count [(Category.Lu, 1), (Category.Ll, 1)]).flatten
  else
    [(ofTableLetter letter, count)]

def readRuns (letter : Option Char) (digits : Option Nat) : List Char → List (Category × Nat)
  | [] => (letter.map fun letter => entryRuns letter (digits.getD 1)).getD []
  | c :: rest =>
      if c.isDigit then
        readRuns letter (some (digits.getD 0 * 10 + (c.toNat - '0'.toNat))) rest
      else
        (letter.map fun letter => entryRuns letter (digits.getD 1)).getD [] ++
          readRuns (some c) none rest

def runs : List (Category × Nat) :=
  readRuns none none (table.toList.filter fun c => !c.isWhitespace)

def selectFrom (categories : List Category) (start : Nat) :
    List (Category × Nat) → List (Nat × Nat)
  | [] => []
  | (category, length) :: rest =>
      if categories.contains category then
        (start, start + length - 1) :: selectFrom categories (start + length) rest
      else
        selectFrom categories (start + length) rest

def characters (categories : List Category) : CharacterSet :=
  ⟨CharacterSet.joinTouching (selectFrom categories 0 runs)⟩

def group (letters : List Char) : CharacterSet :=
  characters (all.filter fun category =>
    letters.any fun letter => category.name.toList.head? == some letter)

end Category

end Reparse
