/-! Text cut at a separator. There is one piece more than there are separators. -/
namespace JupyterWorkloads.Text

def pieces (separator : Char) : List Char → List (List Char)
  | [] => [[]]
  | c :: rest =>
    if c = separator then [] :: pieces separator rest
    else match pieces separator rest with
      | [] => [[c]]
      | piece :: more => (c :: piece) :: more

end JupyterWorkloads.Text
