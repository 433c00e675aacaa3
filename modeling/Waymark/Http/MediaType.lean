import Waymark.Http.Request
import Waymark.Path

/-!
# Waymark.Http.MediaType

The media type of a file, told from the extension of its name without regard to
case.
-/

namespace Waymark.Http

/-- The media types in common use, each with its extensions. -/
def mediaTypes : List (String × List String) := [
  ("text/html", ["htm", "html"]),
  ("text/css", ["css"]),
  ("text/javascript", ["js", "mjs"]),
  ("text/plain", ["asm", "bas", "c", "cc", "cmd", "cnf", "cpp", "cs", "csproj", "cxx", "def",
    "dsw", "h", "hpp", "hxx", "in", "inc", "ini", "inl", "log", "lst", "mak", "map", "py",
    "rc2", "rgs", "s", "sln", "txt", "vb", "vcproj", "vcs", "conf", "cfg", "list", "text"]),
  ("text/xml", ["addin", "disco", "dtd", "dtsconfig", "mno", "vml", "wsdl", "xml", "xsd",
    "xsl", "xslt", "xrm-ms", "ssisdeploymentmanifest"]),
  ("text/markdown", ["markdown", "md", "mdown", "mdwn", "mkd"]),
  ("text/csv", ["csv"]),
  ("text/calendar", ["ics"]),
  ("text/x-yaml", ["yaml", "yml"]),
  ("text/x-toml", ["toml"]),
  ("text/x-rust", ["rs"]),
  ("text/x-vcard", ["vcf"]),
  ("text/x-component", ["htc"]),
  ("text/x-java-source", ["java"]),
  ("text/x-setext", ["etx"]),
  ("text/x-lua", ["lua"]),
  ("text/jscript", ["jsx"]),
  ("text/richtext", ["rtx"]),
  ("text/scriptlet", ["sct"]),
  ("text/sgml", ["sgml"]),
  ("text/tab-separated-values", ["tsv"]),
  ("text/vbscript", ["vbs"]),
  ("text/vtt", ["vtt"]),
  ("text/webviewhtml", ["htt"]),
  ("text/less", ["less"]),
  ("text/x-sass", ["sass"]),
  ("text/x-scss", ["scss"]),
  ("text/stylus", ["styl"]),
  ("text/coffeescript", ["coffee"]),
  ("text/h323", ["323"]),
  ("text/iuls", ["uls"]),
  ("text/dlm", ["dlm"]),
  ("text/x-ms-contact", ["contact"]),
  ("text/vnd.graphviz", ["gv"]),
  ("text/vnd.wap.wml", ["wml"]),
  ("text/vnd.wap.wmlscript", ["wmls"]),
  ("text/cache-manifest", ["appcache"]),
  ("text/jade", ["jade"]),
  ("text/n3", ["n3"]),
  ("text/turtle", ["ttl"]),
  ("text/uri-list", ["uri", "uris", "urls"]),
  ("text/vcard", ["vcard"]),
  ("text/x-fortran", ["f", "f77", "f90", "for"]),
  ("text/x-handlebars-template", ["hbs"]),
  ("text/x-opml", ["opml"]),
  ("text/x-org", ["org"]),
  ("text/x-pascal", ["p", "pas"]),
  ("text/x-ms-group", ["group"]),
  ("image/apng", ["apng"]),
  ("image/avif", ["avif"]),
  ("image/bmp", ["bmp", "dib"]),
  ("image/gif", ["gif"]),
  ("image/heic", ["heic"]),
  ("image/heif", ["heif"]),
  ("image/ief", ["ief"]),
  ("image/cgm", ["cgm"]),
  ("image/jpx", ["jpf", "jpx"]),
  ("image/ktx", ["ktx"]),
  ("image/vnd.dwg", ["dwg"]),
  ("image/vnd.dxf", ["dxf"]),
  ("image/x-3ds", ["3ds"]),
  ("image/jpeg", ["jpe", "jpeg", "jpg"]),
  ("image/jp2", ["jp2"]),
  ("image/jxl", ["jxl"]),
  ("image/pict", ["pct", "pic", "pict"]),
  ("image/pjpeg", ["jfif"]),
  ("image/png", ["png", "pnz"]),
  ("image/svg+xml", ["svg", "svgz"]),
  ("image/tiff", ["tif", "tiff"]),
  ("image/vnd.adobe.photoshop", ["psd"]),
  ("image/vnd.djvu", ["djv", "djvu"]),
  ("image/vnd.ms-photo", ["wdp"]),
  ("image/vnd.rn-realflash", ["rf"]),
  ("image/vnd.wap.wbmp", ["wbmp"]),
  ("image/webp", ["webp"]),
  ("image/x-cmu-raster", ["ras"]),
  ("image/x-cmx", ["cmx"]),
  ("image/x-icon", ["ico"]),
  ("image/x-jg", ["art"]),
  ("image/x-macpaint", ["mac", "pnt", "pntg"]),
  ("image/x-portable-anymap", ["pnm"]),
  ("image/x-portable-bitmap", ["pbm"]),
  ("image/x-portable-graymap", ["pgm"]),
  ("image/x-portable-pixmap", ["ppm"]),
  ("image/x-quicktime", ["qti", "qtif"]),
  ("image/x-rgb", ["rgb"]),
  ("image/x-xbitmap", ["xbm"]),
  ("image/x-xpixmap", ["xpm"]),
  ("image/x-xwindowdump", ["xwd"]),
  ("audio/aac", ["aac", "adts"]),
  ("audio/ac3", ["ac3"]),
  ("audio/aiff", ["aif", "aifc", "aiff", "cdda"]),
  ("audio/basic", ["au", "snd"]),
  ("audio/flac", ["flac"]),
  ("audio/m4a", ["m4a"]),
  ("audio/m4b", ["m4b"]),
  ("audio/m4p", ["m4p"]),
  ("audio/mid", ["mid", "midi", "rmi"]),
  ("audio/mpeg", ["mp3"]),
  ("audio/ogg", ["oga", "ogg", "opus", "spx"]),
  ("audio/wav", ["wav", "wave"]),
  ("audio/x-caf", ["caf"]),
  ("audio/x-gsm", ["gsm"]),
  ("audio/x-mpegurl", ["m3u", "m3u8"]),
  ("audio/x-ms-wax", ["wax"]),
  ("audio/x-ms-wma", ["wma"]),
  ("audio/x-pn-realaudio", ["ra", "ram"]),
  ("audio/x-pn-realaudio-plugin", ["rpm"]),
  ("audio/scpls", ["pls"]),
  ("audio/amr", ["amr"]),
  ("audio/webm", ["weba"]),
  ("audio/x-matroska", ["mka"]),
  ("audio/x-sd2", ["sd2"]),
  ("video/3gpp", ["3gp", "3gpp"]),
  ("video/3gpp2", ["3g2", "3gp2"]),
  ("video/divx", ["divx"]),
  ("video/h264", ["h264"]),
  ("video/x-f4v", ["f4v"]),
  ("video/x-fli", ["fli"]),
  ("video/mp4", ["mp4", "mp4v"]),
  ("video/mpeg", ["m1v", "mod", "mp2", "mp2v", "mpa", "mpe", "mpeg", "mpg", "mpv2"]),
  ("video/ogg", ["ogv"]),
  ("video/quicktime", ["mov", "mqv", "qt"]),
  ("video/vnd.dlna.mpeg-tts", ["m2t", "m2ts", "mts", "ts", "tts"]),
  ("video/webm", ["webm"]),
  ("video/x-dv", ["dif", "dv"]),
  ("video/x-flv", ["flv"]),
  ("video/x-la-asf", ["lsf", "lsx"]),
  ("video/x-m4v", ["m4v"]),
  ("video/x-matroska", ["mkv", "mk3d", "mks"]),
  ("video/x-ivf", ["ivf"]),
  ("video/x-ms-asf", ["asf", "asr", "asx", "nsc"]),
  ("video/x-ms-wm", ["wm"]),
  ("video/x-ms-wmp", ["wmp"]),
  ("video/x-ms-wmv", ["wmv"]),
  ("video/x-ms-wmx", ["wmx"]),
  ("video/x-ms-wvx", ["wvx"]),
  ("video/x-msvideo", ["avi"]),
  ("video/x-sgi-movie", ["movie"]),
  ("font/collection", ["ttc"]),
  ("font/otf", ["otf"]),
  ("font/ttf", ["ttf"]),
  ("font/woff", ["woff"]),
  ("font/woff2", ["woff2"]),
  ("application/vnd.ms-fontobject", ["eot"]),
  ("application/atom+xml", ["atom"]),
  ("application/ecmascript", ["es"]),
  ("application/epub+zip", ["epub"]),
  ("application/geo+json", ["geojson"]),
  ("application/gpx+xml", ["gpx"]),
  ("application/hjson", ["hjson"]),
  ("application/json5", ["json5"]),
  ("application/pgp-encrypted", ["pgp"]),
  ("application/pgp-signature", ["asc", "sig"]),
  ("application/pkcs7-mime", ["p7c", "p7m"]),
  ("application/pkcs7-signature", ["p7s"]),
  ("application/vnd.amazon.ebook", ["azw"]),
  ("application/vnd.dart", ["dart"]),
  ("application/vnd.fdf", ["fdf"]),
  ("application/vnd.ms-officetheme", ["thmx"]),
  ("application/vnd.ms-wpl", ["wpl"]),
  ("application/x-itunes-itlp", ["itlp"]),
  ("application/x-java-jnlp-file", ["jnlp"]),
  ("application/x-mobipocket-ebook", ["mobi", "prc"]),
  ("application/x-ms-manifest", ["manifest"]),
  ("application/x-msaccess", ["mdb"]),
  ("application/x-msmetafile", ["wmf"]),
  ("application/x-mspublisher", ["pub"]),
  ("application/x-pkcs7-certificates", ["p7b", "spc"]),
  ("application/x-subrip", ["srt"]),
  ("application/gzip", ["gz"]),
  ("application/hta", ["hta"]),
  ("application/java-archive", ["jar"]),
  ("application/json", ["json"]),
  ("application/ld+json", ["jsonld"]),
  ("application/manifest+json", ["webmanifest"]),
  ("application/mac-binhex40", ["hqx"]),
  ("application/mathematica", ["nb"]),
  ("application/mathml+xml", ["mathml"]),
  ("application/msaccess", ["accdb", "accde", "accdt", "ade", "adp", "mda", "mde"]),
  ("application/msword", ["doc", "dot", "wbk", "wiz"]),
  ("application/oda", ["oda"]),
  ("application/ogg", ["ogx"]),
  ("application/olescript", ["axs"]),
  ("application/onenote", ["one", "onea", "onepkg", "onetmp", "onetoc", "onetoc2"]),
  ("application/pdf", ["pdf"]),
  ("application/pkcs10", ["p10"]),
  ("application/pkcs8", ["p8"]),
  ("application/pkix-crl", ["crl"]),
  ("application/postscript", ["ai", "eps", "ps"]),
  ("application/rdf+xml", ["rdf"]),
  ("application/rss+xml", ["rss"]),
  ("application/rtf", ["rtf"]),
  ("application/sql", ["sql"]),
  ("application/vnd.android.package-archive", ["apk"]),
  ("application/vnd.apple.installer+xml", ["mpkg"]),
  ("application/vnd.apple.keynote", ["key"]),
  ("application/vnd.apple.numbers", ["numbers"]),
  ("application/vnd.apple.pages", ["pages"]),
  ("application/vnd.google-earth.kml+xml", ["kml"]),
  ("application/vnd.google-earth.kmz", ["kmz"]),
  ("application/vnd.mozilla.xul+xml", ["xul"]),
  ("application/vnd.ms-cab-compressed", ["cab"]),
  ("application/vnd.ms-excel", ["sldxls", "xla", "xlc", "xld", "xlk", "xll", "xlm", "xls",
    "xlt", "xlw"]),
  ("application/vnd.ms-excel.addin.macroEnabled.12", ["xlam"]),
  ("application/vnd.ms-excel.sheet.binary.macroEnabled.12", ["xlsb"]),
  ("application/vnd.ms-excel.sheet.macroEnabled.12", ["xlsm"]),
  ("application/vnd.ms-excel.template.macroEnabled.12", ["xltm"]),
  ("application/vnd.ms-outlook", ["msg"]),
  ("application/vnd.ms-powerpoint", ["pot", "ppa", "pps", "ppt", "pwz"]),
  ("application/vnd.ms-powerpoint.presentation.macroEnabled.12", ["pptm"]),
  ("application/vnd.ms-project", ["mpd", "mpp", "mpt", "mpw", "mpx"]),
  ("application/vnd.ms-word.document.macroEnabled.12", ["docm"]),
  ("application/vnd.ms-works", ["wcm", "wdb", "wks", "wps"]),
  ("application/vnd.oasis.opendocument.graphics", ["odg"]),
  ("application/vnd.oasis.opendocument.presentation", ["odp"]),
  ("application/vnd.oasis.opendocument.spreadsheet", ["ods"]),
  ("application/vnd.oasis.opendocument.text", ["odt"]),
  ("application/vnd.openxmlformats-officedocument.presentationml.presentation", ["pptx"]),
  ("application/vnd.openxmlformats-officedocument.presentationml.slideshow", ["ppsx"]),
  ("application/vnd.openxmlformats-officedocument.presentationml.template", ["potx"]),
  ("application/vnd.openxmlformats-officedocument.spreadsheetml.sheet", ["xlsx"]),
  ("application/vnd.openxmlformats-officedocument.spreadsheetml.template", ["xltx"]),
  ("application/vnd.openxmlformats-officedocument.wordprocessingml.document", ["docx"]),
  ("application/vnd.openxmlformats-officedocument.wordprocessingml.template", ["dotx"]),
  ("application/vnd.visio", ["vdx", "vsd", "vss", "vst", "vsw", "vsx", "vtx"]),
  ("application/wasm", ["wasm"]),
  ("application/winhlp", ["hlp"]),
  ("application/x-7z-compressed", ["7z"]),
  ("application/x-bcpio", ["bcpio"]),
  ("application/x-bittorrent", ["torrent"]),
  ("application/x-bzip", ["bz"]),
  ("application/x-bzip2", ["bz2"]),
  ("application/x-cdf", ["cdf"]),
  ("application/x-compress", ["z"]),
  ("application/x-compressed", ["tgz"]),
  ("application/x-cpio", ["cpio"]),
  ("application/x-csh", ["csh"]),
  ("application/x-director", ["dcr", "dir", "dxr"]),
  ("application/x-dvi", ["dvi"]),
  ("application/x-freearc", ["arc"]),
  ("application/x-gtar", ["gtar"]),
  ("application/x-hdf", ["hdf"]),
  ("application/x-httpd-php", ["php"]),
  ("application/x-java-applet", ["class"]),
  ("application/x-latex", ["latex"]),
  ("application/x-msdownload", ["dll"]),
  ("application/x-perl", ["pl"]),
  ("application/x-pkcs12", ["p12", "pfx"]),
  ("application/x-quicktimeplayer", ["qtl"]),
  ("application/x-rar-compressed", ["rar"]),
  ("application/x-ruby", ["rb"]),
  ("application/x-sh", ["sh"]),
  ("application/x-shar", ["shar"]),
  ("application/x-shockwave-flash", ["swf"]),
  ("application/x-silverlight-app", ["xap"]),
  ("application/x-sqlite3", ["sqlite", "sqlite3"]),
  ("application/x-stuffit", ["sit"]),
  ("application/x-sv4cpio", ["sv4cpio"]),
  ("application/x-sv4crc", ["sv4crc"]),
  ("application/x-tar", ["tar"]),
  ("application/x-tcl", ["tcl"]),
  ("application/x-tex", ["tex"]),
  ("application/x-texinfo", ["texi", "texinfo"]),
  ("application/x-troff", ["roff", "t", "tr"]),
  ("application/x-troff-man", ["man"]),
  ("application/x-troff-me", ["me"]),
  ("application/x-troff-ms", ["ms"]),
  ("application/x-ustar", ["ustar"]),
  ("application/x-wais-source", ["src"]),
  ("application/x-x509-ca-cert", ["cer", "crt", "der", "pem"]),
  ("application/x-xz", ["xz"]),
  ("application/xaml+xml", ["xaml"]),
  ("application/xhtml+xml", ["xht", "xhtml"]),
  ("application/xml", ["asa", "asax", "ascx", "ashx", "asmx", "aspx", "config"]),
  ("application/xspf+xml", ["xspf"]),
  ("application/zip", ["zip"]),
  ("application/zstd", ["zst"]),
  ("message/rfc822", ["eml", "mht", "mhtml", "nws"])]

/-- The type of content about which nothing is known. -/
def unknownMediaType : String := "application/octet-stream"

/-- The media type of the file at a path. -/
def mediaTypeOf (path : String) : String :=
  match Path.extension? path with
  | none => unknownMediaType
  | some extension =>
    match mediaTypes.find? fun (_, extensions) => extensions.contains (lowerCase extension) with
    | some (mediaType, _) => mediaType
    | none => unknownMediaType

end Waymark.Http
