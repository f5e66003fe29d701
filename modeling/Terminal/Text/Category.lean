import Terminal.Text.Char

namespace Terminal.Text

inductive Class where
  | letter
  | digit
  | numeral
  | number
  | mark
  | connector
  | hidden
  | symbol
  deriving DecidableEq, Repr

def Class.ofLetter : Char → Option Class
  | 'L' => some .letter
  | 'G' => some .digit
  | 'R' => some .numeral
  | 'N' => some .number
  | 'M' => some .mark
  | 'P' => some .connector
  | 'X' => some .hidden
  | 'O' => some .symbol
  | _ => none

/-- The classes of all code points from zero up, Unicode 14: each item is the length of a run, in
hexadecimal, and the letter of its class. -/
def classRuns : List String := [
  "20X10OAG7O1AL4O1P1O1AL4O22X9O1L2O1X4O2N1O1L3O1N1L1O3N1O17L1O1FL1O1CAL4OCLEO5L7O1L1O1L11O",
  "70M5L1O2L2X4L1O1L4X2O1L1O3L1X1L1X14L1X53L1O8BL1O5M2OA6L1X26L2X1L6O29L2O2X3O1X2DM1O1M1O2M1O",
  "2M1O1M8X1BL4X4L2O11XAOBM1O1X3O2BL15MAG4O2L1M63L1O1L7M1X1O6M2L2M1O4M2LAG3L2O1LEO2X1L1M1EL",
  "1BM2X59LBM1LEXAG21L9M2L4O1L2X1M2O16L4M1L9M1L3M1L5M2XFO1X19L3M2X1O1XBL5X18L1O6L9X8M2AL18M1X",
  "21M36L3M1L12M1L7MAL2M2OAG1O10L3M1X8L2X2L2X16L1X7L1X1L3X4L2X1M1L7M2X2M2X3M1L8X1M4X2L1X3L2M",
  "2XAG2L2O6N2O1L1O1M2X3M1X6L4X2L2X16L1X7L1X2L1X2L1X2L2X1M1X5M4X2M2X3M3X1M7X4L1X1L7XAG2M3L1M",
  "1OAX3M1X9L1X3L1X16L1X7L1X2L1X5L2X1M1L8M1X3M1X3M2X1LFX2L2M2XAG2O7X1L6M1X3M1X8L2X2L2X16L1X7L",
  "1X2L1X5L2X1M1L7M2X2M2X3M7X3M4X2L1X3L2M2XAG1O1L6NAX1M1L1X6L3X3L1X4L3X2L1X1L1X2L3X2L3X3L3XCL",
  "4X5M3X3M1X4M2X1L6X1MEXAG3N8O5X5M8L1X3L1X17L1X10L2X1M1L7M1X3M1X4M7X2M1X3L2X1L2X2L2M2XAG7X1O",
  "7N1O1L3M1O8L1X3L1X17L1XAL1X5L2X1M1L7M1X3M1X4M7X2M6X2L1X2L2M2XAG1X2LDX4M9L1X3L1X29L2M1L7M1X",
  "3M1X4M1L1O4X3L1M7N3L2M2XAG9N1O6L1X3M1X12L3X18L1X9L1X1L2X7L3X1M4X6M1X1M1X8M6XAG2X2M1OCX30L",
  "1M2L7M4X1O7L8M1OAG2O25X2L1X1L1X5L1X18L1X1L1XAL1M2L9M1L2X5L1X1L1X6M2XAG2X4L20X1L17O2M6OAGAN",
  "1O1M1O1M1O1M4O2M8L1X24L4X14M1O2M5LBM1X24M1X8O1M6O1XDO25X2BL14M1LAG6O6L4M4L3M1L3M2L7M3L4MDL",
  "CM1L1MAG4M2O26L1X1L5X1L2X2BL1O14DL1X4L2X7L1X1L1X4L2X29L1X4L2X21L1X4L2X7L1X1L1X4L2XFL1X39L",
  "1X4L2X43L2X3M9O14N3X10LAO6X56L2X6L2X1O26CL2O11L1X1AL2O3X4BL3O3R8L7X12L4M9X13L3M2O9X12L2MCX",
  "DL1X3L1X2MCX34L20M3O1L4O1L1M2XAG6XAN6XBO3M1X1MAG6X59L7X5L2M22L1M1L5X46LAX1FL1XCM4XCM4X1O3X",
  "2OAG1EL2X5LBX2CL4X1AL6XAG1N3X22O17L5M2X2O35LAM1X1DM2X1MAG6XAG6X7O1L6O2XEM1O10M31X5M2FL11M",
  "8L3XAG11O9MBO1X3M1ELDM2LAG2CLEM8X4O24L14M3X5OAG3X3LAG24L2O9L7X2BL2X3L8O8X3M1O15M4L1M6L1M2L",
  "3M1L5XC0L40M116L2X6L2X26L2X6L2X8L1X1L1X1L1X1L1X1FL2X35L1X7L1O1L3O3L1X7L3O4L2X6L1X3ODL3O2X",
  "3L1X7L2O11X18O8XFO2P13O1PAO11X1N1L2X6N5O1LAN5O1XDL3X21OFXDM4O1M3OCMFX2O1L4O1L2OAL1O1L3O5L",
  "6O1L1O1L1O1L1O4L1OBL2O4L5O5L4O1L1O10N23R2L4R1N2O4X297O19XBO15X3CN4EO16N276O1EN3E0O2X20O1X",
  "69OE5L6O4L3M2L5X4O1N2O26L1X1L5X1L2X38L7X1L1OEX1M17L9X7L1X7L1X7L1X7L1X7L1X7L1X7L1X7L1X20M",
  "2FO1L2EO22X1AO1X59OCXD6O1AXCO5X4O2L1R19O9R6M1O5L2O3R2L3O1X56L2X2M2O3L1O5AL1O4L5X2BL1X5EL1X",
  "2O4NAO20L24OCX10L1FO1XAN1EO8N1OFN20OAN27OFN140O19C0L40O568DL3X37O9X2EL2O10DL3O10LAG2L14X",
  "2FL1M4OAM1O1FL2M46LAR2M6O8X17O9L2O67L2O40L5X2L1X1L1X5L18X10L1M3L1M4L1M17L5M4O1M3X6N4O6X34L",
  "4O8X2M32L12M8X2OAG6X12M6L3O1L1O2L1MAG1CL8M2O17LDMBX1O1DL3X4M2FLEMDO1X1LAG4X2O5L1MALAG5L1X",
  "29LEM9X3L1M8L2M2XAG2X4O17L3O1L3M32L1M1L3M2L2M5L2M1L1M1L18X3L2OBL5M2O3L2MAX6L2X6L2X6L9X7L1X",
  "7L1X2BL1OEL2O4X73L8M1O2M2XAG6X2BA4LCX17L4X31L2104X16EL2X6AL26X7LCX5L5X1L1MAL1ODL1X5L1X1L1X",
  "2L1X2L1X6CL11O10X16BL12O40L2X36L7X1O20XCL4O10MAO6X10M3O2P18O3P3O1X13O1X4O4X5L1X87L4XFOAG7O",
  "1AL4O1P1O1ALBO59L3X6L2X6L2X6L2X3L3X7O1X7ODX2O2XCL1X1AL1X13L1X2L1XFL2XEL22X7BL5X3O4X2DN3X9O",
  "35R4N11O2N3O1XDO3X1O2FX2DO1M82X1DL3X31LFX1M1BN4X20L4N9X14L1R8L1R5X26L5M5X1EL1X1O24L4X8L1O",
  "5R2AX9EL2XAG6X24L4X24L4X28L8X34LBX1OBL1XFL1X7L1X2L1XBL1XFL1X7L1X2L43X137L9X16LAX8L18X6L1X",
  "2AL1X9L45X6L2X1L1X2CL1X2L3X1L2X17L1X1O8N17L2O7N1FL8X9N30X13L1X2L5X5N16L6N3X1O1AL5X1O40X38L",
  "4X2N2L10N2X2EN1L3M1X2M5X4M4L1X3L1X1DL2X3M4X1M9N7X9O7X1DL2N1O1DL3N20X8L1O1CL2M4X5N7O9X36L3X",
  "7O16L2X8N13L5X8N12L7X4OCX7N50X49L37X33LDX33L7X6N24L4M8XAG126X1FN1X2AL1X2M1O2X2L4EX1DLAN1L",
  "8X16LBM4N5O16X12L4M4O26X15L7N14X17L9X3M35LFM7O4X14NAG1M2L2M1L9X4M2DLBM2O1X4O1MDX19L7XAG6X",
  "3M24LEM1XAG4O1L2M1L8X23L1M2O1L9X3M30LEM4L4O4M1O2MAG1L1O1L3O1X14NBX12L1X19LCM6O1M41X7L1X1L",
  "1X4L1XFL1XAL1O6X2FLCM5XAG6X4M1X8L2X2L2X16L1X7L1X2L1X5L1X2M1L7M2X2M2X3M2X1L6X1M5X5L2M2X7M3X",
  "5M8BX35L12M4L5OAG2O1X1O1M3L1EX30L14M2L1O1L8XAGA6X2FL7M2X9M17O4L2M22X30L11M3O1LBXAG6XDO13X",
  "2BLDM1L1O6XAG36X1BL2XFM4XAG2N4O7LB9X2CLFM1O64X40LAG9NCX8L2X1L2X8L1X2L1X18L6M1X2M2X4M1L1M1L",
  "2M3O9XAG46X8L2X27L7M2X7M1L1O1L1M1BX1LAM28L7M1L4M8O1M8X1LBM2EL10M3O1L5ODX49L107X9L1X25L8M1X",
  "8M1L5OAXAG13N3X2O1EL2X16M1XEM49X7L1X2L1X26L6M3X1M1X2M1X7M1L1M8XAG6X6L1X2L1X20L5M1X2M1X5M1L",
  "7XAG136X13L4M2OB7X1LFX15N1DODX1O39AL66X6FR1X5OBXC4LA4CX61L2ODX42FLFD1X247L21B9X239L7X1FL1X",
  "AG4X2O4FL1XAG6X1EL2X5M1OAX30L7M9O4L2OAXAG1X7N1X15L5X13L2B0X40L17N4O65X4BL4X1M1L37M7X4MDL",
  "40X2L1O1L1MBX2MEX17F8L8X4D6L2AX9L22E7X4L1X7L1X2L1X123L2DX3L11X4L8X18CL904X6BL5XDL3X9L7XAL",
  "2X1O2M1O1260X2EM2X17M9X74O3CXF6OAX27O2X3CO5M3O6M8X8M2O7M1EO4M3DO15X42O3M1O9AX14NCX57O9X19N",
  "87X55L1X47L1X2L2X1L2X2L2X4L1XCL1X1L1X7L1X41L1X4L2X8L1X7L1X1CL1X4L1X5L1X1L3X7L1X154L2X19L1O",
  "19L1O1FL1O19L1O1FL1O19L1O1FL1O19L1O1FL1O19L1O8L2X32G200O37M4O32M8O1MEO1M7OFX5M1XFM450X1FL",
  "E1X7M1X11M2X7M1X2M1X5MD5X2DL3X7M7L2XAG4X1L1O140X1EL1M11X2CL4MAG5X1O4E0X7L1X4L1X2L1XFL1XC5L",
  "2X9N7M29X44L7M1L4XAG4X2O311X3BN1O3N1O4N4CX2DN1OFNC2X4L1X1BL1X2L1X1L2X1L1XAL1X4L1X1L1X1L6X",
  "1L4X1L1X1L1X1L1X3L1X2L1X1L2X1L1X1L1X1L1X1L1X1L1X2L1X1L2X4L1X7L1X4L1X4L1X1L1XAL1X11L5X3L1X",
  "5L1X11L34X2O10EX2CO4X64OCXFO2XFO1XFO1X25OAXDNA1O38X1DODX2CO4X9O7X2OEX6O9AX3D8O5X10O3XDO3X",
  "74OCX59O7XCO4X1OFXCO4X38O8XAO6X28O8X1EO2X2O4EX154OCXEO2X5O3X5O3X7O9X1DO3XBO5X6OAXAO6X8O8X",
  "7O9X93O1X37O25XAG406XA6E0L20X1039L7XDEL2X1682LEX1D31LC1FX21EL5E2X134BLAEDB5XF0M2FE10X"]

def decodeRuns : List Char → Nat → Nat → List (Nat × Class)
  | [], _, _ => []
  | c :: cs, length, start =>
    match Class.ofLetter c with
    | some k => (start, k) :: decodeRuns cs 0 (start + length)
    | none => decodeRuns cs (length * 16 + (hexValue? c).getD 0) start

def classTable : Array (Nat × Class) :=
  (decodeRuns (classRuns.flatMap String.toList) 0 0).toArray

def searchRun (table : Array (Nat × Class)) (n lo hi : Nat) : Class :=
  if hi ≤ lo + 1 then (table[lo]?.map Prod.snd).getD .hidden
  else
    let mid := (lo + hi) / 2
    match table[mid]? with
    | some (start, _) => if start ≤ n then searchRun table n mid hi else searchRun table n lo mid
    | none => searchRun table n lo mid
termination_by hi - lo

def classOf (c : Char) : Class := searchRun classTable c.toNat 0 classTable.size

def isLetter (c : Char) : Bool :=
  if c.toNat < 128 then c.isAlpha else classOf c == .letter

def isAlphanumeric (c : Char) : Bool :=
  if c.toNat < 128 then c.isAlphanum
  else match classOf c with
    | .letter | .digit | .numeral | .number => true
    | _ => false

def isVisible (c : Char) : Bool :=
  if c.toNat < 128 then 32 ≤ c.toNat && c.toNat < 127 else classOf c != .hidden

/-- Letters that may not begin a name because their compatibility forms are no names. -/
def unfitStarts : List Nat := [
  0x37A, 0xE33, 0xEB3, 0x2E2F, 0xFC5E, 0xFC5F, 0xFC60, 0xFC61, 0xFC62, 0xFC63, 0xFDFA, 0xFDFB,
  0xFE70, 0xFE72, 0xFE74, 0xFE76, 0xFE78, 0xFE7A, 0xFE7C, 0xFE7E, 0xFF9E, 0xFF9F]

def fitFollowers : List Nat := [0xE33, 0xEB3, 0xFF9E, 0xFF9F]

def extraStarts : List Nat := [0x1885, 0x1886, 0x2118, 0x212E]

def extraFollowers : List Nat := [
  0xB7, 0x387, 0x1369, 0x136A, 0x136B, 0x136C, 0x136D, 0x136E, 0x136F, 0x1370, 0x1371, 0x19DA]

def isNameStart (c : Char) : Bool :=
  c == '_' || extraStarts.contains c.toNat ||
    ((match classOf c with
      | .letter | .numeral => true
      | _ => false) && !unfitStarts.contains c.toNat)

def isNameFollower (c : Char) : Bool :=
  isNameStart c || fitFollowers.contains c.toNat || extraFollowers.contains c.toNat ||
    (match classOf c with
      | .digit | .mark | .connector => true
      | _ => false)

def isName : List Char → Bool
  | [] => false
  | c :: cs => isNameStart c && cs.all isNameFollower

def quoteFor (s : List Char) : Char := if s.contains '\'' && !s.contains '"' then '"' else '\''

def quoteChar (quote c : Char) : List Char :=
  if c = quote ∨ c = '\\' then ['\\', c]
  else if c = '\n' then ['\\', 'n']
  else if c = '\r' then ['\\', 'r']
  else if c = '\t' then ['\\', 't']
  else if isVisible c then [c]
  else if c.toNat < 0x100 then '\\' :: 'x' :: hex 2 c.toNat
  else if c.toNat < 0x10000 then '\\' :: 'u' :: hex 4 c.toNat
  else '\\' :: 'U' :: hex 8 c.toNat

def quoted (s : String) : String :=
  let quote := quoteFor s.toList
  .ofList (quote :: (s.toList.flatMap (quoteChar quote) ++ [quote]))

end Terminal.Text
