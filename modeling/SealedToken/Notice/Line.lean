import SealedToken.Log.Event

namespace SealedToken.Notice

def timeMark : Text := "<ts>"

/-- The line by which a notice is printed. An exception is formatted with the calls that led to it,
so its text is known only when it is printed. -/
def line (format : Cause → Text) (n : Notice) : Text :=
  "ts=" ++ timeMark ++ " level=" ++ Quoted.write n.level.label ++
    " event=" ++ Quoted.write n.eventName ++ " detail=" ++ Quoted.write n.message ++
    match n.cause? with
    | some c => " exception=" ++ Quoted.write (format c)
    | none => []

end SealedToken.Notice
