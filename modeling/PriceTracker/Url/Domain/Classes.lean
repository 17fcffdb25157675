import PriceTracker.Text.CharTable

/-!
# Classes of domain characters

The properties that the validity rules for domain labels ask for: combining marks, the
bidirectional class and the joining type.
-/

namespace PriceTracker.Url.Domain

open Text

/-- The combining marks (general category M). -/
def marks : CharSet := .read
  "300 70 113 7 107 2d 1 1 1 2 1 2 1 1 48 b 30 15 10 1 65 7 2 6 2 2 1 4 23 1 1e 1b 5b b 3a 9 9 1
   18 4 1 9 1 3 1 5 2b 3 3b 9 2a 18 1 21 36 3 1 12 1 7 a 2 1d 3 38 1 1 7 2 2 2 3 9 1 a 2 1a 1 2 3
   38 1 1 5 4 2 2 3 3 1 1e 2 3 1 b 3 38 1 1 8 1 3 1 3 14 2 16 6 1 3 38 1 1 7 2 2 2 3 7 3 a 2 1e 1
   3b 5 3 3 1 4 9 1 28 5 37 1 1 7 1 3 1 4 7 2 b 2 1d 3 38 1 1 7 1 3 1 4 7 2 b 2 f 1 c 4 37 2 1 7
   1 3 1 4 9 1 a 2 1d 3 46 1 4 6 1 1 1 8 12 2 3d 1 2 7 c 8 62 1 2 9 b 7 49 2 1b 1 1 1 1 1 4 2 31
   14 1 2 5 b 1 24 9 1 64 14 17 4 4 3 1 3 2 7 3 4 d c 1 1 a 4 2bf 3 3b2 4 1c 3 1d 2 1e 2 40 20 9
   1 2d 3 1 1 75 2 22 1 76 c 4 c db 5 39 a 1 1d 2 1 30 2e 2 c 14 5 2f 11 26 9 c 3 1e d 38 e 30 14
   98 3 1 15 4 1 6 1 2 3 c6 40 2d0 21 bfe 3 8d 1 60 20 22a 6 69 2 75d4 4 1 a 20 2 50 2 110 1 3 1
   4 1 17 5 4 1 53 2 32 12 1a 12 d 1 26 8 19 d 2c 4 2f e 24 1 43 e c 1 8 2 2d 3 32 1 1 3 2 2 5 2
   1 1 29 5 5 2 ec 8 1 2 4f30 1 2e1 10 10 10 3cd 1 e2 1 95 5 686 3 1 2 5 4 28 3 4 1 a5 2 23d 4 41
   5 13d 2 4d 6 46 b 31 4 7a 3 35 f 29 1 2 2 a 4 2d b 7 1 3d 3 24 e 10 2 2c 1 c 3 30 e 8 4 1 2 5c
   c 6 1 2 1 9d c 15 4 37 2 1 7 2 2 2 3 9 1 a 2 2 7 3 5 43 9 1 1 2 1 1 4 1 5 1 1 e 2 52 12 17 1
   51 14 eb 7 2 9 1b 2 52 11 6a d 65 f 100 f f5 6 1 2 2 4 1 1 1 2 8d 7 2 7 3 1 1c a 28 7 1 4 8 1
   9 b 2e 10 c6 8 c7 8 1 8 52 16 1 e 7a 6 3 1 1 2 1 7 1 1 42 5 1 2 1 5 15b 4 9 2 1 1 30 7 3 5 17
   1 14e5 1 6 f 2cc8 12 9c0 5 3b 7 418 1 1 37 7 4 51 1 b 2 4cab 2 1261 2e 2 17 21e 5 3 6 8 8 2 7
   1e 4 94 3 7bb 37 4 32 8 1 e 1 16 5 1 f 550 7 1 11 2 7 1 2 1 5 64 1 a0 7 177 1 3d 4 1fc 4 fe 2
   f3 1 2 1 7 2 5 1 1da 7 6d 7 c17b5 f0"

/-- The bidirectional classes that may occur in a label of a right-to-left name. -/
inductive BidiClass where
  | leftToRight
  | rightToLeft
  | arabicLetter
  | arabicNumber
  | europeanNumber
  | europeanSeparator
  | commonSeparator
  | europeanTerminator
  | otherNeutral
  | boundaryNeutral
  | nonspacingMark
  /-- Any class that may not occur. -/
  | other
  deriving DecidableEq, Repr

/-- The class that the text of an entry writes. -/
def BidiClass.read (cs : List Char) : BidiClass :=
  match cs with
  | 'L' :: _ => .leftToRight
  | 'R' :: _ => .rightToLeft
  | 'A' :: _ => .arabicLetter
  | 'N' :: _ => .arabicNumber
  | 'E' :: _ => .europeanNumber
  | 'S' :: _ => .europeanSeparator
  | 'C' :: _ => .commonSeparator
  | 'T' :: _ => .europeanTerminator
  | 'O' :: _ => .otherNeutral
  | 'B' :: _ => .boundaryNeutral
  | 'M' :: _ => .nonspacingMark
  | _ => .other

/-- The bidirectional class of each character. -/
def bidiClasses : CharTable BidiClass := .read BidiClass.read
  "0B 9X 5B eX 5O 2T 3O 5S 1C 1S 1C 2E aC 1O 6L 1aO 6L 1aO 4B 6X 1B 1aC 1O 1T 4O 4L 1O 2B 1O 2T
   2E 2O 1L 1O 3E 1L 1O 5L 17O 1L 1fO 1L 1c1O 2L 7O eL 2O eL 5O 9L 1O 11M 70L 4O 2L 8O 1L 5O 2L
   1O 1L 6eO 1L 8cM 7L 100O 1L 2O 2T 1R 1M 2dR 1M 1R 1M 2R 1M 2R 1M 1R 38N 6O 2A 1T 2A 1C 1A 1O
   2M bA 30M 15N aT 1N 2A 3M 1A 65M 7N 1O 1M 6A 2M 2O 1M 4A 2E aA 17M 1A 1eM 1bA 5bM bA fR 2bM 9R
   2O 4R 3M 1R 18M 4R 1M 9R 1M 3R 1M 5R 2bM 3R 4A 30N 2A 6M 8A 2aM 18N 1M 20L 37M 1L 1M 1L 4M 8L
   4M 1L 3M 7L aM 2L 1dM 1L 3aM 1L 4M 4L 8M 1L 14M 2L eT 2L 7T 1L 2M 1L 2M 2L 39M 1L 4M 2L 4M 2L
   2M 3L 3M 1L 1eM 2L 3M 1L bM 2L 39M 1L 4M 5L 1M 2L 4M 1L 14M 2L dT 1L 8M 6L 1M 1L 3aM 1L 2M 1L
   1M 4L 8M 1L 7M 2L bM 2L 1eM 1L 3dM 1L cM 1L 25O 6T 1O 1L 5M 1L 3M 1L 37M 1L 1M 3L 5M 3L 1M 4L
   7M 2L bM 2L 14O 7L 2M 1L 3aM 1L fM 2L 14M 2L 1cM 2L 39M 2L 4M 4L 8M 1L 14M 2L 1dM 1L 48M 1L 7M
   3L 1M 1L 5aM 1L 2M 7L 4T 1L 7M 8L 62M 1L 2M 9L bM 7L 49M 2L 1bM 1L 1M 1L 1M 1O 4L 33M eL 1M 5L
   1M 2L 5M bL 1M 24L 9M 1L 66M 4L 1M 6L 1M 2L 2M 2L 19M 2L 4M 3L 10M 4L dM 1L 2M 2L 6M 1L fM 1L
   2bfM 3L 30O aL 66O 1L 27fX 1L 1aO 2L 75M 3L 1dM 2L 1eM 2L 1eM 2L 40M 2L 1M 7L 8M 1L 2M bL 7T
   1L 1M 1L 12O aL 6O bM 3B 1M 1L 75M 2L 22M 1L 76M 3L 4M 2L 9M 1L 6M 3L 4O 1L 3O 2L 98O 22L 17M
   2L 2M 1L 3aM 1L 1M 7L 1M 1L 1M 1L 2M 8L 6M aL 2M 1L 30M 1fL 31M 4L 30M 1L 1M 5L 1M 1L 5M 1L
   28M 9L cM 2L 20M 4L 2M 2L 1M 3L 38M 1L 1M 2L 3M 1L 1M 3L 3aM 8L 2M 2L 98M 3L 1M dL 1M 7L 4M 1L
   6M 1L 3M 2L c6M 40L 1bdO 1L 1O 3L bO 3L dO 3L dO 3L dO 2L 1X bB 3L 1R 1O 18X 7C 1T 5O fC 1O
   1aX 1B 6X 4B 6E 1L 3E 6S 2O 3L 1E aS 2O 3L 11T 30M 21L fO 2L 1O 4L 1O 2L aO 1L 1O 3L 5O 6L 1O
   1L 1O 1L 1O 1L 4T 1L bO 2L 4O 5L 5O 4L 2O 10L 29O 3L 4O 82S 1T 1O 122L 45O 1aL 1O 91L 19O bL
   15O 28E 14L 4eO 1c2L 1O 153L 100O 274L 2O 20L 1O 69L e5O 6L 4M 3L 7O 7L 7fM 1L 60M 20O 5eL 22O
   1aL 1O 59L cO d6L 1aO cL 4X 1O 4L 3O 19L 9M 4L 2O 1L 5O 2L 5O 3L 59M 2O 2L 3O 1L 5aO 1L c4O
   24L 39O 2L 31O 10L 1cO 3L 32O fL cO 4L a7O 4L 63O 2L 1fO 1L 19c0O 40L 5690O 37L 146O 3L 5fM 4O
   1M aO 2L 1eM 2L 50M 2L eO 22L 66O 1L 79M 1L 3M 1L 4M 1L 19M 2L 1O 4M 1L bT 2L 3aO 4L 4cM 2L
   1aM 12L dM 1L 26M 8L 19M bL 2eM 3L 30M 1L 2M 4L 2M 2L 27M 1L 43M 6L 2M 2L 2M 2L cM 1L 8M 1L
   2fM 1L 33M 1L 1M 3L 2M 2L 5M 2L 1M 1L 2aM 2L 8M 1L 73O 2L 79M 1L 2M 1L 4M 1L 4f2fR 1M 1R aS 1R
   26A 1eeO 12A 7fO 1B 20A dO 3M 10O aL 6M 10O 20C 1O 1C 1L 1O 1C 1O 9T 1O 2S 2O 3L 1O 1T 2O 1L
   4A 8fB 1L 1O 2T 3O 5S 1C 1S 1C 2E aC 1O 6L 1aO 6L 1aO bL 7aT 2O 3T 2L 1O 7L 1B 9O 5B 2L 101O
   1L 3eO 4dL 3O dL 3O 1L 5cM 1L e2M 1E 1bL 7aM 5L 485R 11fO 1R e1M 3R 1M 2R 5M 4R 28M 3R 4M 1R
   a5M 2R 52O 7R 1c0A 24M 4A 8N aA 6R 120N 1fR 2cM 2R 13A 3dM 3R 30A 16M bA 1fR 12M 4R 7aL 1M 1L
   36M fL bO 14L aM 1L 2M 2L aM 3L 31M 4L 2M 2L 7M 1L 3dM 3L 24M 5L 1M 8L 3eM 1L cM 2L 34M 9L aM
   4L 2M 1L 5fM 3L 2M 1L 1M 2L 6M 1L 2M 1L 9dM 1L 3M 8L 15M 2L 39M 2L 3M 1L 25M 7L 3M 5L c3M 8L
   2M 3L 1M 1L 17M 1L 54M 6L 1M 1L 4M 2L 1M 2L eeM 4L 6M 2L 1M 2L 1bM 2L 55M 8L 2M 1L 1M 2L 1fO
   dL 3eM 1L 1M 1L 2M 6L 1M 1L 65M 3L 2M 4L 1M 5L 103M 9L 1M 2L 100M 2L 1M 1L 4M 1L 90M 4L 2M 2L
   4M 1L 20M 6L 2M 2L 28M 6L 2M 4L 8M 1L 9M 6L 2M 3L 2eM dL 1M 2L 196M 7L 1M 6L 54M 16L 2M 7L 1M
   2L 1M 2L 7aM 6L 3M 1L 1M 2L 1M 7L 1M 1L 48M 2L 3M 1L 1M 1L 15bM 2L bM 2L 34M 5L 5M 1L 1M 1L
   92O 8T 4O 11L 144eM 1L 6M fL 369aM 5L 3bM 7L 418M 1L 3fM 4L 4fO 1L 1M 1L 4cb8M 2L 1B 4L 125cM
   2eL 2M 17L 220M 3L 9B 8M 8L 2M 7L 1eM 4L 3bO 2L 15O 42M 3O 1L baO 57L 384O 1L 39O 1L 39O 1L
   39O 1L 39O 1L aE 32L 200M 37L 4M 32L 8M 1L eM 1L 16M 5L 1M fL 550M 7L 1M 11L 2M 7L 1M 2L 1M 5L
   64M 1L a0M 7L 177M 1L 3dM 4L fT 1L 1ecM 4L 310R d0M 7R 6dM 7R 325A 50R 40A 50R b0A f0O 2A eR
   100O 2cL 4O 64L cO fL 2O fL 1O fL 1O 25L aE bO 5L 1fO 1L 3aO 6L 3dO 1L b2O 6L 9aO 3d8L 4O 11L
   3O dL 3O 77L 4O 5fL 6O cL 4O 1L fO cL 4O 38L 8O aL 6O 28L 8O 1eL 2O 2L 4eO 154L cO eL 2O dL 3O
   9L 7O 2eL 1O 7L 8O eL 4O 9L 7O 9L 7O 93L 1O 37L 25E aL 404B 2L fffeB 2L fffeB 2L fffeB 2L
   fffeB 2L fffeB 2L fffeB 2L fffeB 2L fffeB 2L fffeB 2L fffeB 2L fffeB 2L fffeB 102M f0B e10L
   effeB 2L fffeB 2L fffeB 2L"

/-- The bidirectional class of a character. -/
def bidiClass (c : Char) : BidiClass :=
  (bidiClasses.find? c).getD .other

/-- How a letter joins its neighbours. -/
inductive JoiningType where
  | dual
  | left
  | right
  | transparent
  | none
  deriving DecidableEq, Repr

/-- The type that the text of an entry writes. -/
def JoiningType.read (cs : List Char) : JoiningType :=
  match cs with
  | 'D' :: _ => .dual
  | 'L' :: _ => .left
  | 'R' :: _ => .right
  | 'T' :: _ => .transparent
  | _ => .none

/-- The joining type of each character. -/
def joiningTypes : CharTable JoiningType := .read JoiningType.read
  "0U adT 1U 252T 70U 113T 7U 107T 2dU 1T 1U 1T 2U 1T 2U 1T 1U 48T bU 1T 1U 3D 1U 1R 4D 1R 1D 1R
   1D 5R 4D dU 1D 7R 1D 2T 15U eD 2T 1R 3U 1R 3D 10R 12D 26R 1D 2R 9D 1R 1D 1R 1D 2R 2U 1R 1T 7U
   2T 6U 2T 2U 1T 4R 2U aD 3U 2D 1U fT 1R 1T 1D 3R 5D 4R 1D 9R 1D 1R 1D 1R 1D 2R 1T 1bU 2R 1D bR
   3D fR 2D 4R 1D 1R 2D 3R 2D 6U 26T bU 19D 21T 9U 9T 1U 18T 4U 1T 9U 1T 3U 1T 5U 12R 1D 5R 2D 1R
   1D aR 1D 1R 3T 3U 4D 1U 1D 4U 1R 1D 1R 2U 5R 13U 3D 1U 2D 5R 1U 9T 8D aR 3U 1R 1D 2R 2D 6R 1D
   fU 1T 18U 1T 20U 37T 1U 1T 1U 4T 8U 4T 1U 3T 7U aT 2U 1dT 1U 3aT 1U 4T 4U 8T 1U 14T 2U 1aT 1U
   2T 2U 39T 1U 4T 2U 4T 2U 2T 3U 3T 1U 1eT 2U 3T 1U bT 2U 39T 1U 4T 5U 1T 2U 4T 1U 14T 2U 16T 6U
   1T 1U 3aT 1U 2T 1U 1T 4U 8T 1U 7T 2U bT 2U 1eT 1U 3dT 1U cT 1U 32T 1U 3T 1U 37T 1U 1T 3U 5T 3U
   1T 4U 7T 2U bT 2U 1dT 1U 3aT 1U 2T 1U 6T 1U 5T 2U 14T 2U 1cT 2U 39T 2U 4T 4U 8T 1U 14T 2U 1dT
   1U 48T 1U 7T 3U 1T 1U 5aT 1U 2T 7U cT 8U 62T 1U 2T 9U bT 7U 49T 2U 1bT 1U 1T 1U 1T 1U 37T eU
   1T 5U 1T 2U 5T bU 1T 24U 9T 1U 66T 4U 1T 6U 1T 2U 2T 2U 19T 2U 4T 3U 10T 4U dT 1U 2T 2U 6T 1U
   fT 1U 2bfT 3U 3b2T 3U 1dT 2U 1eT 2U 1eT 2U 40T 2U 1T 7U 8T 1U 2T bU 9T 1U 29D 1U 3T 3U 1T 1U
   10D 59U cT 2D 22T 1D 1U 75T 3U 4T 2U 9T 1U 6T 3U dbT 2U 2T 1U 3aT 1U 1T 7U 1T 1U 1T 1U 2T 8U
   6T aU 2T 1U 30T 1fU 31T 4U 30T 1U 1T 5U 1T 1U 5T 1U 28T 9U cT 2U 20T 4U 2T 2U 1T 3U 38T 1U 1T
   2U 3T 1U 1T 3U 3aT 8U 2T 2U 98T 3U 1T dU 1T 7U 4T 1U 6T 1U 3T 2U c6T 40U 20bT 1U 2T 2U 1aT 5U
   31T 5U 5T 6U 60T 21U bfeT 3U 8dT 1U 60T 20U 22aT 4U 6bT 2U 75d4T 4U 1T aU 20T 2U 50T 2U 110T
   1U 3T 1U 4T 1U 19T 2U 5T 1U 13D 32L 1U 51T 2U 1aT 12U dT 1U 26T 8U 19T bU 2eT 3U 30T 1U 2T 4U
   2T 2U 27T 1U 43T 6U 2T 2U 2T 2U cT 1U 8T 1U 2fT 1U 33T 1U 1T 3U 2T 2U 5T 2U 1T 1U 2aT 2U 8T 1U
   eeT 1U 2T 1U 4T 1U 4f30T 1U 2e1T 10U 10T 10U cfT 1U f9T 3U 201T 1U e2T 1U 95T 5U 686T 3U 1T 2U
   5T 4U 28T 3U 4T 1U 80D 5R 1U 1R 1U 1R 2U 2L 1R 5D 4L 1D 5R 1D 3R 1U 2R 1T 2U 4D 4R 1U 90D 1R
   1D 1R 3D 3R 1D 2R 1D 1R 2D 1R 1U 17R 4D 2U 151L 1D 21R 1D 1T 4U 183T 2U 50T 3U 30D 3R 1D 11U
   1T bD 3R 1U 1bD 4R 2D cT 4U 2aD 1U 1D 2R 3U 1D 1R 2D 2R 1D 2U 1D 1R 2D 1U 4R 1D 1L 1U 35T 1U
   36T fU 29T 1U 2T 2U aT 3U 31T 4U 2T 2U 7T 1U 3dT 3U 24T 5U 1T 8U 3eT 1U cT 2U 34T 9U aT 4U 2T
   1U 5fT 3U 2T 1U 1T 2U 6T 1U 2T 1U 9dT 1U 3T 8U 15T 2U 39T 2U 3T 1U 25T 7U 3T 5U c3T 8U 2T 3U
   1T 1U 17T 1U 54T 6U 1T 1U 4T 2U 1T 2U eeT 4U 6T 2U 1T 2U 1bT 2U 55T 8U 2T 1U 1T 2U 6aT 1U 1T
   1U 2T 6U 1T 1U 65T 3U 2T 4U 1T 5U 103T 9U 1T 2U 100T 2U 1T 1U 4T 1U 90T 4U 2T 2U 4T 1U 20T aU
   28T 6U 2T 4U 8T 1U 9T 6U 2T 3U 2eT dU 1T 2U 196T 7U 1T 6U 1T 1U 52T 16U 2T 7U 1T 2U 1T 2U 7aT
   6U 3T 1U 1T 2U 1T 7U 1T 1U 48T 2U 3T 1U 1T 1U 15bT 2U bT 2U 34T 5U 5T 1U 1T 1U 14edT 11U 6T fU
   369aT 5U 3bT 7U 418T 1U 3fT 4U 51T 1U 4cb8T 2U 1T 4U 125cT 2eU 2T 17U 220T 3U 9T 10U 2T 7U 1eT
   4U 94T 3U 7bbT 37U 4T 32U 8T 1U eT 1U 16T 5U 1T fU 550T 7U 1T 11U 2T 7U 1T 2U 1T 5U 64T 1U a0T
   7U 177T 1U 3dT 4U 1fcT 4U 3e0T 7U 29D 44T 8U c16b5T 1U 1eT 60U 80T f0U"

/-- The joining type of a character. -/
def joiningType (c : Char) : JoiningType :=
  (joiningTypes.find? c).getD .none

end PriceTracker.Url.Domain
