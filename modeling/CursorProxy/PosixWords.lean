import Mathlib

/-! The words of a simple command as a POSIX shell splits it. What is more than words, an operator,
an expansion or a comment, is refused. -/
namespace CursorProxy.PosixWords

inductive Mode where
 | plain
 | escaped
 | single
 | double
 | doubleEscaped
deriving DecidableEq

/-- The words that are complete, the word under way and the quotes it is in. -/
structure Lexer where
 words : List (List Char)
 word : Option (List Char)
 mode : Mode
deriving DecidableEq

/-- Unquoted, such a character stands for itself. -/
def isPlain (char:Char) : Bool :=
 !"|&;<>()$*?[]#~=%!\n".toList.contains char&&char != '\x60' && char != '\x7b' && char != '\x7d'

namespace Lexer

def start : Lexer := ⟨[],none,.plain⟩

def push (lexer:Lexer) (chars:List Char) (mode:Mode) : Lexer :=
 ⟨lexer.words,some (lexer.word.getD []++chars),mode⟩

def step (lexer:Lexer) (char:Char) : Option Lexer :=
 match lexer.mode with
 | .plain=>
  if char = ' ' ∨ char = '\t' then some ⟨lexer.words++lexer.word.toList,none,.plain⟩
  else if char = '\'' then some (lexer.push [] .single)
  else if char = '"' then some (lexer.push [] .double)
  else if char = '\\' then some { lexer with mode := .escaped }
  else if isPlain char then some (lexer.push [char] .plain)
  else none
 | .escaped=>
  if char = '\n' then some { lexer with mode := .plain } else some (lexer.push [char] .plain)
 | .single=>
  if char = '\'' then some (lexer.push [] .plain) else some (lexer.push [char] .single)
 | .double=>
  if char = '"' then some (lexer.push [] .plain)
  else if char = '\\' then some { lexer with mode := .doubleEscaped }
  else if char = '$' ∨ char = '\x60' then none
  else some (lexer.push [char] .double)
 | .doubleEscaped=>
  if char = '\n' then some { lexer with mode := .double }
  else if char = '$' ∨ char = '\x60' ∨ char = '"' ∨ char = '\\' then
   some (lexer.push [char] .double)
  else some (lexer.push ['\\',char] .double)

def run (lexer:Lexer) (text:List Char) : Option Lexer := text.foldlM step lexer

/-- A quote that is open or a backslash at the end is refused. -/
def finish (lexer:Lexer) : Option (List (List Char)) :=
 if lexer.mode=.plain then some (lexer.words++lexer.word.toList) else none

theorem run_append (lexer:Lexer) (text more:List Char) :
 lexer.run (text++more)=(lexer.run text).bind fun lexer=>lexer.run more :=
 List.foldlM_append

theorem run_cons (lexer:Lexer) (char:Char) (text:List Char) :
 lexer.run (char::text)=(lexer.step char).bind fun lexer=>lexer.run text := rfl

theorem push_push (lexer:Lexer) (chars more:List Char) (mode mode':Mode) :
 (lexer.push chars mode).push more mode'=lexer.push (chars++more) mode':=by
 unfold push
 rw [Option.getD_some,List.append_assoc]

end Lexer

def posixWords (text:List Char) : Option (List (List Char)) :=
 (Lexer.start.run text).bind Lexer.finish

example : posixWords "a \"b c\"'d'\\ e".toList=some ["a".toList,"b cd e".toList] := by decide

end CursorProxy.PosixWords
