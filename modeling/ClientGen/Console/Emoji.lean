import ClientGen.Console.PictureNames
import ClientGen.Text.Blank
import ClientGen.Text.Case
import ClientGen.Text.Lines

/-!
# Codes of pictures

A console shows a picture for its code, which is a name between colons.  Behind the name may stand
whether the picture is to look like a letter or like an image.
-/

namespace ClientGen.Emoji

/-- Words in pairs. -/
def pairs : List String → List (String × String)
  | a :: b :: rest => (a, b) :: pairs rest
  | _ => []

/-- The flag of a region, which is a black flag with the letters of the region in characters for
tags, and an end of them. -/
def regionFlag (letters : String) : String :=
  String.ofList ('🏴' :: letters.toList.map (fun c => Char.ofNat (0xe0000 + c.toNat)) ++
    [Char.ofNat 0xe007f])

/-- The names of pictures with the pictures. -/
def pictures : List (String × String) :=
  pairs (nameLines.flatMap fun line => Text.split ' ' line) ++
    [("england", regionFlag "gbeng"), ("scotland", regionFlag "gbsct"),
     ("wales", regionFlag "gbwls")]

/-- The endings of names that choose how a picture looks, with the characters that say so. -/
def looks : List (String × Char) :=
  [("-emoji", Char.ofNat 0xfe0f), ("-text", Char.ofNat 0xfe0e)]

/-- The name without an ending that chooses a look, and what such an ending adds. -/
def splitLook (name : List Char) : List Char × List Char :=
  match looks.find? fun look => look.1.toList.isSuffixOf name with
  | some (ending, mark) => (name.take (name.length - ending.length), [mark])
  | none => (name, [])

/-- What is shown for a name between colons. -/
def shown? (name : List Char) : Option (List Char) :=
  let (stem, look) := splitLook name
  let lower := Text.lower (String.ofList stem)
  (pictures.find? fun picture => picture.1 == lower).map fun picture => picture.2.toList ++ look

/-- Characters with pictures for their codes; a code without a picture stays. -/
def replace : List Char → List Char
  | [] => []
  | ':' :: rest =>
    let name := rest.takeWhile fun c => c != ':' && !Text.isBlank c
    match _h : rest.drop name.length with
    | ':' :: more => (shown? name).getD (':' :: name ++ [':']) ++ replace more
    | _ => ':' :: replace rest
  | c :: rest => c :: replace rest
termination_by cs => cs.length
decreasing_by
  · have := congrArg List.length _h
    simp only [List.length_drop, List.length_cons] at this ⊢
    omega
  · simp
  · simp

end ClientGen.Emoji
