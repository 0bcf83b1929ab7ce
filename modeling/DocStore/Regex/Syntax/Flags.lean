import DocStore.Regex.CharClass
import DocStore.Regex.Engine
/-!
The modes in which a pattern is read. They are set from outside or by the pattern itself, and each
part of the pattern is read under the modes in force where it stands.
-/
namespace DocStore.Regex

/-- The modes with those that only a pattern itself can set. -/
structure Modes extends Flags where
  unicode : Bool := true
  carriageReturns : Bool := false
  verbose : Bool := false

/-- Drops blanks and comments, which run from a hash sign to the end of the line. -/
def skipBlanks (inComment : Bool) : List Char → List Char
  | [] => []
  | c :: rest =>
    if inComment then skipBlanks (c != '\n') rest
    else if Text.isBlank c then skipBlanks false rest
    else if c = '#' then skipBlanks true rest
    else c :: rest

namespace Modes

/-- Where reading goes on: in verbose mode blanks and comments are passed over. -/
def skip (flags : Modes) (cs : List Char) : List Char :=
  if flags.verbose then skipBlanks false cs else cs

def fold (flags : Modes) (c : CharClass) : CharClass :=
  if flags.caseless then if flags.unicode then .folded c else .asciiFolded c else c

/-- A set as it is written: closed under case first, then complemented. Outside Unicode mode a set
must stay within ASCII, or it would hold bytes that are no characters. -/
def close (flags : Modes) (negated : Bool) (c : CharClass) : Option CharClass :=
  let set := if negated then .complement (flags.fold c) else flags.fold c
  if !flags.unicode && set.leavesAscii then none else some set

/-- Sets one mode by its letter. -/
def set (flags : Modes) (letter : Char) (on : Bool) : Modes :=
  match letter with
  | 'i' => { flags with caseless := on }
  | 'm' => { flags with multiline := on }
  | 's' => { flags with dotMatchesNewline := on }
  | 'u' => { flags with unicode := on }
  | 'R' => { flags with carriageReturns := on }
  | 'x' => { flags with verbose := on }
  | _ => flags

def letters : List Char := ['i', 'm', 's', 'U', 'u', 'R', 'x']

/-- Reads mode letters up to a colon or a closing parenthesis. A letter stands once, and the
hyphen before the letters to be turned off stands once and not last. Gives the modes, whether any
letter was there, and the rest from the end mark on. -/
def read (flags : Modes) (seen : List Char) (negative dangling : Bool) :
    List Char → Option (Modes × Bool × List Char)
  | [] => none
  | c :: rest =>
    if c = ':' ∨ c = ')' then if dangling then none else some (flags, !seen.isEmpty, c :: rest)
    else if seen.contains c then none
    else if c = '-' then read flags (c :: seen) true true rest
    else if letters.contains c then read (flags.set c !negative) (c :: seen) negative false rest
    else none

end Modes

end DocStore.Regex
