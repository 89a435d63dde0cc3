import SessionScript.Failure

/-!
# Failure codes

The short codes under which failed connections and writes are counted.
-/

namespace SessionScript

/-- The names of system error numbers, by number; an empty text where a number has none. -/
def systemErrorNames : List String :=
  ["", "EPERM", "ENOENT", "ESRCH", "EINTR", "EIO", "ENXIO", "E2BIG", "ENOEXEC", "EBADF",
    "ECHILD", "EAGAIN", "ENOMEM", "EACCES", "EFAULT", "ENOTBLK", "EBUSY", "EEXIST", "EXDEV",
    "ENODEV", "ENOTDIR", "EISDIR", "EINVAL", "ENFILE", "EMFILE", "ENOTTY", "ETXTBSY", "EFBIG",
    "ENOSPC", "ESPIPE", "EROFS", "EMLINK", "EPIPE", "EDOM", "ERANGE", "EDEADLOCK", "ENAMETOOLONG",
    "ENOLCK", "ENOSYS", "ENOTEMPTY", "ELOOP", "", "ENOMSG", "EIDRM", "ECHRNG", "EL2NSYNC",
    "EL3HLT", "EL3RST", "ELNRNG", "EUNATCH", "ENOCSI", "EL2HLT", "EBADE", "EBADR", "EXFULL",
    "ENOANO", "EBADRQC", "EBADSLT", "", "EBFONT", "ENOSTR", "ENODATA", "ETIME", "ENOSR", "ENONET",
    "ENOPKG", "EREMOTE", "ENOLINK", "EADV", "ESRMNT", "ECOMM", "EPROTO", "EMULTIHOP", "EDOTDOT",
    "EBADMSG", "EOVERFLOW", "ENOTUNIQ", "EBADFD", "EREMCHG", "ELIBACC", "ELIBBAD", "ELIBSCN",
    "ELIBMAX", "ELIBEXEC", "EILSEQ", "ERESTART", "ESTRPIPE", "EUSERS", "ENOTSOCK", "EDESTADDRREQ",
    "EMSGSIZE", "EPROTOTYPE", "ENOPROTOOPT", "EPROTONOSUPPORT", "ESOCKTNOSUPPORT", "ENOTSUP",
    "EPFNOSUPPORT", "EAFNOSUPPORT", "EADDRINUSE", "EADDRNOTAVAIL", "ENETDOWN", "ENETUNREACH",
    "ENETRESET", "ECONNABORTED", "ECONNRESET", "ENOBUFS", "EISCONN", "ENOTCONN", "ESHUTDOWN",
    "ETOOMANYREFS", "ETIMEDOUT", "ECONNREFUSED", "EHOSTDOWN", "EHOSTUNREACH", "EALREADY",
    "EINPROGRESS", "ESTALE", "EUCLEAN", "ENOTNAM", "ENAVAIL", "EISNAM", "EREMOTEIO", "EDQUOT",
    "ENOMEDIUM", "EMEDIUMTYPE", "ECANCELED", "ENOKEY", "EKEYEXPIRED", "EKEYREVOKED",
    "EKEYREJECTED", "EOWNERDEAD", "ENOTRECOVERABLE", "ERFKILL"]

/-- The name of a system error number. -/
def systemErrorName? (n : Int) : Option String :=
  if n < 0 then none
  else (systemErrorNames[n.toNat]?).filter fun name => !name.isEmpty

/-- The short code of a failure: the status of a rejected handshake, a timeout, the name of the
    system error number, or the kind of the failure. -/
def Failure.shortCode : Failure → String
  | .rejected status _ => "HTTP " ++ Text.ofInt status
  | .report r => r.kind.name
  | .host e =>
    if e.kind == "TimeoutError" then "ETIMEDOUT"
    else
      match e.isNumbered, e.args with
      | true, .int n :: _ => (systemErrorName? n).getD e.kind
      | _, _ => e.kind

end SessionScript
