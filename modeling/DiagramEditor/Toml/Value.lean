/-! Values of TOML documents. Settings are made of strings, integers, arrays and tables.
A float or a date only has to be well formed, so its value is not kept. Of a number that
has no value, only that is kept. -/
namespace DiagramEditor.Toml

inductive Value where
  | string (text : String)
  | integer (value : Int)
  | float
  | valueless
  | boolean (value : Bool)
  | dateTime
  | array (items : List Value)
  | table (entries : List (String × Value))
deriving Repr, Inhabited

end DiagramEditor.Toml
