/-!
# Line ends

Texts from files may end their lines in three ways; inside the library a line ends with a line feed.
-/

namespace Conformance.Text

def unifyNewlines : List Char → List Char
  | [] => []
  | '\r' :: '\n' :: rest => '\n' :: unifyNewlines rest
  | '\r' :: rest => '\n' :: unifyNewlines rest
  | c :: rest => c :: unifyNewlines rest

end Conformance.Text
