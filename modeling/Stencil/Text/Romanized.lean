import Stencil.Text.Case

set_option autoImplicit false
set_option relaxedAutoImplicit false

/-!
Letters of some European alphabets spelled in small ASCII letters.
-/

namespace Stencil.Text.Romanized

def spellings : List (String × String) := [
  ("a", "àáâãäåāăąḁạảấầẩẫậắằẳẵặαάаª"), ("ae", "æ"), ("b", "ḃḅḇβб"), ("c", "çćĉċčḉ"),
  ("d", "ďḋḍḏḑḓđðδд"), ("e", "èéêëēĕėęěḕḗḙḛḝẹẻẽếềểễệεέηήеэ"), ("f", "ḟφф"), ("g", "ĝğġģḡγг"),
  ("h", "ĥḣḥḧḩḫẖħ"), ("i", "ìíîïĩīĭįḭḯỉịıιίϊий"), ("ij", "ĳ"), ("j", "ĵ"), ("k", "ķḱḳḵκк"),
  ("l", "ĺļľḷḹḻḽłλл"), ("m", "ḿṁṃμмµ"), ("n", "ñńņňṅṇṉṋνн"), ("ng", "ŋ"),
  ("o", "òóôõöōŏőṍṏṑṓọỏốồổỗộớờởỡợøοόωώоº"), ("oe", "œ"), ("p", "ṕṗπп"), ("ps", "ψ"),
  ("r", "ŕŗřṙṛṝṟρр"), ("s", "śŝşšṡṣṥṧṩſσςс"), ("ss", "ß"), ("t", "ţťṫṭṯṱẗŧτт"), ("th", "þθ"),
  ("u", "ùúûüũūŭůűųṳṵṷṹṻụủứừửữựυύу"), ("v", "ṽṿв"), ("w", "ŵẁẃẅẇẉẘ"), ("x", "ẋẍξ"),
  ("y", "ýÿŷẏẙỳỵỷỹы"), ("z", "źżžẑẓẕζз"), ("io", "ё"), ("zh", "ж"), ("kh", "хχ"), ("ts", "ц"),
  ("ch", "ч"), ("sh", "ш"), ("shch", "щ"), ("iu", "ю"), ("ia", "я")]

def spelling? (c : Char) : Option (List Char) :=
  match Case.charLower c with
  | [c] => (spellings.find? fun s => s.2.toList.contains c).map (·.1.toList)
  | _ => none

end Stencil.Text.Romanized
