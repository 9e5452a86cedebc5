/-! The bytes that formats of text give a meaning to. -/
namespace CallGuard.Ascii

@[match_pattern] abbrev tab : UInt8 := 9
@[match_pattern] abbrev lineFeed : UInt8 := 10
@[match_pattern] abbrev formFeed : UInt8 := 12
@[match_pattern] abbrev carriageReturn : UInt8 := 13
@[match_pattern] abbrev space : UInt8 := 32
@[match_pattern] abbrev quote : UInt8 := 34
@[match_pattern] abbrev percent : UInt8 := 37
@[match_pattern] abbrev plus : UInt8 := 43
@[match_pattern] abbrev comma : UInt8 := 44
@[match_pattern] abbrev minus : UInt8 := 45
@[match_pattern] abbrev dot : UInt8 := 46
@[match_pattern] abbrev slash : UInt8 := 47
@[match_pattern] abbrev zero : UInt8 := 48
@[match_pattern] abbrev colon : UInt8 := 58
@[match_pattern] abbrev equals : UInt8 := 61
@[match_pattern] abbrev upperE : UInt8 := 69
@[match_pattern] abbrev upperZ : UInt8 := 90
@[match_pattern] abbrev openBracket : UInt8 := 91
@[match_pattern] abbrev backslash : UInt8 := 92
@[match_pattern] abbrev closeBracket : UInt8 := 93
@[match_pattern] abbrev underscore : UInt8 := 95
@[match_pattern] abbrev lowerB : UInt8 := 98
@[match_pattern] abbrev lowerE : UInt8 := 101
@[match_pattern] abbrev lowerF : UInt8 := 102
@[match_pattern] abbrev lowerN : UInt8 := 110
@[match_pattern] abbrev lowerR : UInt8 := 114
@[match_pattern] abbrev lowerT : UInt8 := 116
@[match_pattern] abbrev lowerU : UInt8 := 117
@[match_pattern] abbrev openBrace : UInt8 := 123
@[match_pattern] abbrev closeBrace : UInt8 := 125
@[match_pattern] abbrev delete : UInt8 := 127

def isDigit (b : UInt8) : Bool := 48 ≤ b && b ≤ 57

def isUpper (b : UInt8) : Bool := 65 ≤ b && b ≤ 90

def isLower (b : UInt8) : Bool := 97 ≤ b && b ≤ 122

def isAlphanumeric (b : UInt8) : Bool := isDigit b || isUpper b || isLower b

def toLower (b : UInt8) : UInt8 := if isUpper b then b + 32 else b

/-- The value of a decimal digit. -/
def digitValue (b : UInt8) : Nat := b.toNat - 48

/-- Space, tab, line feed and carriage return. -/
def isSpace (b : UInt8) : Bool := b == space || b == tab || b == lineFeed || b == carriageReturn

end CallGuard.Ascii
