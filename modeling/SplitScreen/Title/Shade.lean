import SplitScreen.Decimal
import SplitScreen.Text.Numeral
import SplitScreen.Title.Token

namespace SplitScreen

namespace Double

def remainder (x : Float) (n : Nat) : Float :=
  if x.isFinite then
    let t := Decimal.Target.ofDouble x
    let whole := n * t.den
    if t.mid < whole then x else Float.ofNat (t.mid % whole) / Float.ofNat t.den
  else 0.0 / 0.0

/-- The double as a place on a circle of some length, which starts at 0. -/
def around (x : Float) (n : Nat) : Float :=
  if x < 0.0 then
    let rest := remainder (-x) n
    if rest == 0.0 then 0.0 else Float.ofNat n - rest
  else remainder x n

end Double

namespace Hue

def share (low high hue : Float) : Float :=
  let place := Double.around hue 1
  if place < 1.0 / 6.0 then low + (high - low) * place * 6.0
  else if place < 0.5 then high
  else if place < 2.0 / 3.0 then low + (high - low) * (2.0 / 3.0 - place) * 6.0
  else low

def shares (hue saturation lightness : Float) : Float × Float × Float :=
  if saturation == 0.0 then (lightness, lightness, lightness)
  else
    let high :=
      if lightness ≤ 0.5 then lightness * (1.0 + saturation)
      else lightness + saturation - lightness * saturation
    let low := 2.0 * lightness - high
    (share low high (hue + 1.0 / 3.0), share low high hue, share low high (hue - 1.0 / 3.0))

def toByte (x : Float) : Nat := (x * 255.0 + 0.5).toUInt8.toNat

def bytes (degrees saturation lightness : Float) : Nat × Nat × Nat :=
  let (red, green, blue) :=
    shares (Double.around degrees 360 / 360.0) saturation lightness
  (toByte red, toByte green, toByte blue)

end Hue

namespace Shade

def named : List (String × Nat) :=
  [("aliceblue", 0xf0f8ff), ("antiquewhite", 0xfaebd7), ("aqua", 0x00ffff),
   ("aquamarine", 0x7fffd4), ("azure", 0xf0ffff), ("beige", 0xf5f5dc), ("bisque", 0xffe4c4),
   ("black", 0x000000), ("blanchedalmond", 0xffebcd), ("blue", 0x0000ff),
   ("blueviolet", 0x8a2be2), ("brown", 0xa52a2a), ("burlywood", 0xdeb887),
   ("cadetblue", 0x5f9ea0), ("chartreuse", 0x7fff00), ("chocolate", 0xd2691e),
   ("coral", 0xff7f50), ("cornflowerblue", 0x6495ed), ("cornsilk", 0xfff8dc),
   ("crimson", 0xdc143c), ("cyan", 0x00ffff), ("darkblue", 0x00008b), ("darkcyan", 0x008b8b),
   ("darkgoldenrod", 0xb8860b), ("darkgray", 0xa9a9a9), ("darkgreen", 0x006400),
   ("darkgrey", 0xa9a9a9), ("darkkhaki", 0xbdb76b), ("darkmagenta", 0x8b008b),
   ("darkolivegreen", 0x556b2f), ("darkorange", 0xff8c00), ("darkorchid", 0x9932cc),
   ("darkred", 0x8b0000), ("darksalmon", 0xe9967a), ("darkseagreen", 0x8fbc8f),
   ("darkslateblue", 0x483d8b), ("darkslategray", 0x2f4f4f), ("darkslategrey", 0x2f4f4f),
   ("darkturquoise", 0x00ced1), ("darkviolet", 0x9400d3), ("deeppink", 0xff1493),
   ("deepskyblue", 0x00bfff), ("dimgray", 0x696969), ("dimgrey", 0x696969),
   ("dodgerblue", 0x1e90ff), ("firebrick", 0xb22222), ("floralwhite", 0xfffaf0),
   ("forestgreen", 0x228b22), ("fuchsia", 0xff00ff), ("gainsboro", 0xdcdcdc),
   ("ghostwhite", 0xf8f8ff), ("gold", 0xffd700), ("goldenrod", 0xdaa520), ("gray", 0x808080),
   ("green", 0x008000), ("greenyellow", 0xadff2f), ("grey", 0x808080), ("honeydew", 0xf0fff0),
   ("hotpink", 0xff69b4), ("indianred", 0xcd5c5c), ("indigo", 0x4b0082), ("ivory", 0xfffff0),
   ("khaki", 0xf0e68c), ("lavender", 0xe6e6fa), ("lavenderblush", 0xfff0f5),
   ("lawngreen", 0x7cfc00), ("lemonchiffon", 0xfffacd), ("lightblue", 0xadd8e6),
   ("lightcoral", 0xf08080), ("lightcyan", 0xe0ffff), ("lightgoldenrodyellow", 0xfafad2),
   ("lightgray", 0xd3d3d3), ("lightgreen", 0x90ee90), ("lightgrey", 0xd3d3d3),
   ("lightpink", 0xffb6c1), ("lightsalmon", 0xffa07a), ("lightseagreen", 0x20b2aa),
   ("lightskyblue", 0x87cefa), ("lightslategray", 0x778899), ("lightslategrey", 0x778899),
   ("lightsteelblue", 0xb0c4de), ("lightyellow", 0xffffe0), ("lime", 0x00ff00),
   ("limegreen", 0x32cd32), ("linen", 0xfaf0e6), ("magenta", 0xff00ff), ("maroon", 0x800000),
   ("mediumaquamarine", 0x66cdaa), ("mediumblue", 0x0000cd), ("mediumorchid", 0xba55d3),
   ("mediumpurple", 0x9370db), ("mediumseagreen", 0x3cb371), ("mediumslateblue", 0x7b68ee),
   ("mediumspringgreen", 0x00fa9a), ("mediumturquoise", 0x48d1cc), ("mediumvioletred", 0xc71585),
   ("midnightblue", 0x191970), ("mintcream", 0xf5fffa), ("mistyrose", 0xffe4e1),
   ("moccasin", 0xffe4b5), ("navajowhite", 0xffdead), ("navy", 0x000080), ("oldlace", 0xfdf5e6),
   ("olive", 0x808000), ("olivedrab", 0x6b8e23), ("orange", 0xffa500), ("orangered", 0xff4500),
   ("orchid", 0xda70d6), ("palegoldenrod", 0xeee8aa), ("palegreen", 0x98fb98),
   ("paleturquoise", 0xafeeee), ("palevioletred", 0xdb7093), ("papayawhip", 0xffefd5),
   ("peachpuff", 0xffdab9), ("peru", 0xcd853f), ("pink", 0xffc0cb), ("plum", 0xdda0dd),
   ("powderblue", 0xb0e0e6), ("purple", 0x800080), ("rebeccapurple", 0x663399), ("red", 0xff0000),
   ("rosybrown", 0xbc8f8f), ("royalblue", 0x4169e1), ("saddlebrown", 0x8b4513),
   ("salmon", 0xfa8072), ("sandybrown", 0xf4a460), ("seagreen", 0x2e8b57), ("seashell", 0xfff5ee),
   ("sienna", 0xa0522d), ("silver", 0xc0c0c0), ("skyblue", 0x87ceeb), ("slateblue", 0x6a5acd),
   ("slategray", 0x708090), ("slategrey", 0x708090), ("snow", 0xfffafa),
   ("springgreen", 0x00ff7f), ("steelblue", 0x4682b4), ("tan", 0xd2b48c), ("teal", 0x008080),
   ("thistle", 0xd8bfd8), ("tomato", 0xff6347), ("turquoise", 0x40e0d0), ("violet", 0xee82ee),
   ("wheat", 0xf5deb3), ("white", 0xffffff), ("whitesmoke", 0xf5f5f5), ("yellow", 0xffff00),
   ("yellowgreen", 0x9acd32)]

/-- The names of the colours that the terminal chooses. -/
def terminal : List String :=
  ["black", "red", "green", "yellow", "blue", "magenta", "cyan", "white", "bright_black",
   "bright_red", "bright_green", "bright_yellow", "bright_blue", "bright_magenta", "bright_cyan",
   "bright_white"]

end Shade

namespace Double

def oneDecimal (x : Float) : String :=
  let t := Decimal.Target.ofDouble x
  let tenths := nearestQuotient (10 * t.mid) t.den
  s!"{tenths / 10}.{tenths % 10}"

/-- A share of one as a percentage, without decimal places where it is whole. -/
def percentText (share : Float) : String :=
  let x := (if share < 0.0 then 0.0 else if 1.0 < share then 1.0 else share) * 100.0
  if x.isNaN then "nan"
  else if x == 0.0 then if signBit ≤ x.toBits.toNat then "-0" else "0"
  else
    let t := Decimal.Target.ofDouble x
    if t.mid % t.den = 0 then toString (t.mid / t.den) else oneDecimal x

end Double

inductive Shade
  /-- Shares of red, green and blue up to 255, and how opaque it is. -/
  | mixed (red green blue : Nat) (alpha : Float)
  /-- The colour that nothing is seen of. -/
  | clear
  /-- A colour that the terminal chooses. -/
  | terminalColour (name : String)
  /-- The one of black and white that can be read. -/
  | automatic (alpha : Float)

namespace Shade

def text : Shade → String
  | mixed red green blue alpha =>
    if alpha == 1.0 then s!"rgb({red},{green},{blue})"
    else s!"rgba({red},{green},{blue}," ++ Double.text "nan" "inf" alpha ++ ")"
  | clear => "rgba(0,0,0,0)"
  | terminalColour name => "ansi_" ++ name
  | automatic alpha => "auto " ++ Double.percentText alpha ++ "%"

def isClear : Shade → Bool
  | mixed _ _ _ alpha | automatic alpha => alpha == 0.0
  | clear => true
  | terminalColour _ => false

def fade (share : Float) : Shade → Shade
  | mixed red green blue alpha => mixed red green blue (alpha * share)
  | clear => mixed 0 0 0 (0.0 * share)
  | terminalColour name => terminalColour name
  | automatic alpha => automatic (alpha * share)

def ofName? (name : String) : Option Shade :=
  if name = "ansi_default" then some (terminalColour "default")
  else if name = "transparent" then some clear
  else
    match terminal.find? fun known => "ansi_" ++ known = name with
    | some known => some (terminalColour known)
    | none =>
      (named.find? fun entry => entry.1 = name).map fun entry =>
        mixed (entry.2 / 0x10000) (entry.2 / 0x100 % 0x100) (entry.2 % 0x100) 1.0

def ofByte (n : Nat) : Float := Double.ofDecimal n 0 / 255.0

def pairs : List Nat → List Nat
  | a :: b :: rest => (16 * a + b) :: pairs rest
  | _ => []

def ofBytes? : List Nat → Option Shade
  | [red, green, blue] => some (mixed red green blue 1.0)
  | [red, green, blue, alpha] => some (mixed red green blue (ofByte alpha))
  | _ => none

/-- A colour of hexadecimal digits. Of three or four of them each one stands for two. -/
def ofHex? (cs : List Char) : Option Shade :=
  let digits := cs.filterMap Hex.value?
  ofBytes? (if digits.length ≤ 4 then digits.map (17 * ·) else pairs digits)

def number (cs : List Char) : Float :=
  let (whole, fraction) := cs.span (· ≠ '.')
  let places := fraction.filterMap Numeral.digit?
  let x := Double.ofDecimal (Numeral.ofDigits (whole.filterMap Numeral.digit? ++ places))
    (-(places.length : Int))
  if cs.head? = some '-' then -x else x

/-- A share of a primary colour: a finite number without its fraction, at least 0 and at most
255. -/
def component? (cs : List Char) : Option Nat :=
  let x := number cs
  if x.isFinite then some x.toUInt8.toNat else none

def clamped (x : Float) : Float := if x < 0.0 then 0.0 else if 1.0 < x then 1.0 else x

def percentage (cs : List Char) : Float := clamped (number cs.dropLast / 100.0)

def arguments (cs : List Char) : List (List Char) :=
  let inner := ((cs.dropWhile (· ≠ '(')).drop 1).takeWhile (· ≠ ')')
  (splitAt (· = ',') inner).map Blank.trim

def ofHue (hue saturation lightness : List Char) (alpha : Float) : Shade :=
  let (red, green, blue) :=
    Hue.bytes (number hue) (percentage saturation) (percentage lightness)
  mixed red green blue alpha

def ofWritten? (cs : List Char) : Option Shade :=
  match cs with
  | '#' :: digits => ofHex? digits
  | 'h' :: _ =>
    match arguments cs with
    | [hue, saturation, lightness] => some (ofHue hue saturation lightness 1.0)
    | [hue, saturation, lightness, alpha] =>
      some (ofHue hue saturation lightness (clamped (number alpha)))
    | _ => none
  | _ =>
    match arguments cs with
    | [red, green, blue] =>
      return mixed (← component? red) (← component? green) (← component? blue) 1.0
    | [red, green, blue, alpha] =>
      return mixed (← component? red) (← component? green) (← component? blue)
        (clamped (number alpha))
    | _ => none

end Shade

end SplitScreen
