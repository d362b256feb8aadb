import Monkey.Bench.Modules

/-!
# The host's modules

The host that the repository's tools run on: the modules of its library and of the packages
installed beside it, which `Modules.Host` leaves as a parameter. Each table lists packages,
which hold modules, or plain modules, by their dotted names, to every level.

- The library is the host's standard library with the modules built into the host and the
  ones it keeps frozen in itself. Its `distutils` is the copy the package tools install in its
  place.
- The installed packages are the coverage measurer and the package tools.
- Each folder of the library that holds compiled modules lists its cache folder as a package,
  since a folder with no package file still loads as a package.

A few listed modules fail as they load, each with its own failure: parts for another system,
parts that need a program the host lacks, and command lines that run as they load and exit.
-/

namespace Monkey

namespace Modules

/-- The packages of the host's library. -/
def libraryPackages : List String :=
  words <| " ".intercalate
    ["__phello__ __phello_alias__ __pycache__ asyncio asyncio.__pycache__ collections",
     "collections.__pycache__ concurrent concurrent.__pycache__ concurrent.futures",
     "concurrent.futures.__pycache__ ctypes ctypes.__pycache__ ctypes.macholib",
     "ctypes.macholib.__pycache__ curses curses.__pycache__ dbm dbm.__pycache__ distutils",
     "distutils.__pycache__ distutils._vendor distutils._vendor.__pycache__",
     "distutils._vendor.packaging distutils._vendor.packaging.__pycache__ distutils.command",
     "distutils.command.__pycache__ distutils.compat distutils.compat.__pycache__ email",
     "email.__pycache__ email.mime email.mime.__pycache__ encodings encodings.__pycache__",
     "ensurepip ensurepip.__pycache__ ensurepip._bundled html html.__pycache__ http",
     "http.__pycache__ idlelib idlelib.Icons idlelib.__pycache__ importlib importlib.__pycache__",
     "importlib.metadata importlib.metadata.__pycache__ importlib.resources",
     "importlib.resources.__pycache__ json json.__pycache__ lib-dynload lib2to3",
     "lib2to3.__pycache__ lib2to3.fixes lib2to3.fixes.__pycache__ lib2to3.pgen2",
     "lib2to3.pgen2.__pycache__ logging logging.__pycache__ multiprocessing",
     "multiprocessing.__pycache__ multiprocessing.dummy multiprocessing.dummy.__pycache__",
     "pydoc_data pydoc_data.__pycache__ re re.__pycache__ site-packages sqlite3",
     "sqlite3.__pycache__ tkinter tkinter.__pycache__ tomllib tomllib.__pycache__ turtledemo",
     "turtledemo.__pycache__ unittest unittest.__pycache__ urllib urllib.__pycache__ venv",
     "venv.__pycache__ venv.scripts venv.scripts.common venv.scripts.posix wsgiref",
     "wsgiref.__pycache__ xml xml.__pycache__ xml.dom xml.dom.__pycache__ xml.etree",
     "xml.etree.__pycache__ xml.parsers xml.parsers.__pycache__ xml.sax xml.sax.__pycache__ xmlrpc",
     "xmlrpc.__pycache__ zoneinfo zoneinfo.__pycache__"]

/-- The plain modules of the host's library. -/
def libraryModules : List String :=
  words <| " ".intercalate
    ["__future__ __hello__ __hello_alias__ __hello_only__ __phello__.spam __phello_alias__.spam",
     "_abc _aix_support _ast _asyncio _bisect _blake2 _bootsubprocess _bz2 _codecs _codecs_cn",
     "_codecs_hk _codecs_iso2022 _codecs_jp _codecs_kr _codecs_tw _collections _collections_abc",
     "_compat_pickle _compression _contextvars _crypt _csv _ctypes _ctypes_test _curses",
     "_curses_panel _datetime _dbm _decimal _elementtree _frozen_importlib",
     "_frozen_importlib_external _functools _hashlib _heapq _imp _io _json _locale _lsprof _lzma",
     "_markupbase _md5 _multibytecodec _multiprocessing _opcode _operator _osx_support _pickle",
     "_posixshmem _posixsubprocess _py_abc _pydecimal _pyio _queue _random _sha1 _sha256 _sha3",
     "_sha512 _signal _sitebuiltins _socket _sqlite3 _sre _ssl _stat _statistics _string _strptime",
     "_struct _symtable _sysconfigdata__linux_x86_64-linux-gnu _testbuffer _testcapi _testclinic",
     "_testimportmultiple _testinternalcapi _testmultiphase _thread _threading_local _tkinter",
     "_tokenize _tracemalloc _typing _uuid _warnings _weakref _weakrefset _xxsubinterpreters",
     "_xxtestfuzz _zoneinfo abc aifc antigravity argparse array ast asynchat asyncio.__main__",
     "asyncio.base_events asyncio.base_futures asyncio.base_subprocess asyncio.base_tasks",
     "asyncio.constants asyncio.coroutines asyncio.events asyncio.exceptions",
     "asyncio.format_helpers asyncio.futures asyncio.locks asyncio.log asyncio.mixins",
     "asyncio.proactor_events asyncio.protocols asyncio.queues asyncio.runners",
     "asyncio.selector_events asyncio.sslproto asyncio.staggered asyncio.streams",
     "asyncio.subprocess asyncio.taskgroups asyncio.tasks asyncio.threads asyncio.timeouts",
     "asyncio.transports asyncio.trsock asyncio.unix_events asyncio.windows_events",
     "asyncio.windows_utils asyncore atexit audioop base64 bdb binascii bisect builtins bz2",
     "cProfile calendar cgi cgitb chunk cmath cmd code codecs codeop collections.abc colorsys",
     "compileall concurrent.futures._base concurrent.futures.process concurrent.futures.thread",
     "configparser contextlib contextvars copy copyreg crypt csv ctypes._aix ctypes._endian",
     "ctypes.macholib.dyld ctypes.macholib.dylib ctypes.macholib.framework ctypes.util",
     "ctypes.wintypes curses.ascii curses.has_key curses.panel curses.textpad dataclasses datetime",
     "dbm.dumb dbm.gnu dbm.ndbm decimal difflib dis distutils._collections distutils._functools",
     "distutils._itertools distutils._log distutils._macos_compat distutils._modified",
     "distutils._msvccompiler distutils._vendor.packaging._elffile",
     "distutils._vendor.packaging._manylinux distutils._vendor.packaging._musllinux",
     "distutils._vendor.packaging._parser distutils._vendor.packaging._structures",
     "distutils._vendor.packaging._tokenizer distutils._vendor.packaging.markers",
     "distutils._vendor.packaging.metadata distutils._vendor.packaging.requirements",
     "distutils._vendor.packaging.specifiers distutils._vendor.packaging.tags",
     "distutils._vendor.packaging.utils distutils._vendor.packaging.version distutils.archive_util",
     "distutils.bcppcompiler distutils.ccompiler distutils.cmd distutils.command._framework_compat",
     "distutils.command.bdist distutils.command.bdist_dumb distutils.command.bdist_rpm",
     "distutils.command.build distutils.command.build_clib distutils.command.build_ext",
     "distutils.command.build_py distutils.command.build_scripts distutils.command.check",
     "distutils.command.clean distutils.command.config distutils.command.install",
     "distutils.command.install_data distutils.command.install_egg_info",
     "distutils.command.install_headers distutils.command.install_lib",
     "distutils.command.install_scripts distutils.command.register distutils.command.sdist",
     "distutils.command.upload distutils.compat.py38 distutils.compat.py39 distutils.config",
     "distutils.core distutils.cygwinccompiler distutils.debug distutils.dep_util",
     "distutils.dir_util distutils.dist distutils.errors distutils.extension",
     "distutils.fancy_getopt distutils.file_util distutils.filelist distutils.log",
     "distutils.msvc9compiler distutils.msvccompiler distutils.spawn distutils.sysconfig",
     "distutils.text_file distutils.unixccompiler distutils.util distutils.version",
     "distutils.versionpredicate distutils.zosccompiler doctest email._encoded_words",
     "email._header_value_parser email._parseaddr email._policybase email.base64mime email.charset",
     "email.contentmanager email.encoders email.errors email.feedparser email.generator",
     "email.header email.headerregistry email.iterators email.message email.mime.application",
     "email.mime.audio email.mime.base email.mime.image email.mime.message email.mime.multipart",
     "email.mime.nonmultipart email.mime.text email.parser email.policy email.quoprimime",
     "email.utils encodings.aliases encodings.ascii encodings.base64_codec encodings.big5",
     "encodings.big5hkscs encodings.bz2_codec encodings.charmap encodings.cp037 encodings.cp1006",
     "encodings.cp1026 encodings.cp1125 encodings.cp1140 encodings.cp1250 encodings.cp1251",
     "encodings.cp1252 encodings.cp1253 encodings.cp1254 encodings.cp1255 encodings.cp1256",
     "encodings.cp1257 encodings.cp1258 encodings.cp273 encodings.cp424 encodings.cp437",
     "encodings.cp500 encodings.cp720 encodings.cp737 encodings.cp775 encodings.cp850",
     "encodings.cp852 encodings.cp855 encodings.cp856 encodings.cp857 encodings.cp858",
     "encodings.cp860 encodings.cp861 encodings.cp862 encodings.cp863 encodings.cp864",
     "encodings.cp865 encodings.cp866 encodings.cp869 encodings.cp874 encodings.cp875",
     "encodings.cp932 encodings.cp949 encodings.cp950 encodings.euc_jis_2004",
     "encodings.euc_jisx0213 encodings.euc_jp encodings.euc_kr encodings.gb18030 encodings.gb2312",
     "encodings.gbk encodings.hex_codec encodings.hp_roman8 encodings.hz encodings.idna",
     "encodings.iso2022_jp encodings.iso2022_jp_1 encodings.iso2022_jp_2 encodings.iso2022_jp_2004",
     "encodings.iso2022_jp_3 encodings.iso2022_jp_ext encodings.iso2022_kr encodings.iso8859_1",
     "encodings.iso8859_10 encodings.iso8859_11 encodings.iso8859_13 encodings.iso8859_14",
     "encodings.iso8859_15 encodings.iso8859_16 encodings.iso8859_2 encodings.iso8859_3",
     "encodings.iso8859_4 encodings.iso8859_5 encodings.iso8859_6 encodings.iso8859_7",
     "encodings.iso8859_8 encodings.iso8859_9 encodings.johab encodings.koi8_r encodings.koi8_t",
     "encodings.koi8_u encodings.kz1048 encodings.latin_1 encodings.mac_arabic",
     "encodings.mac_croatian encodings.mac_cyrillic encodings.mac_farsi encodings.mac_greek",
     "encodings.mac_iceland encodings.mac_latin2 encodings.mac_roman encodings.mac_romanian",
     "encodings.mac_turkish encodings.mbcs encodings.oem encodings.palmos encodings.ptcp154",
     "encodings.punycode encodings.quopri_codec encodings.raw_unicode_escape encodings.rot_13",
     "encodings.shift_jis encodings.shift_jis_2004 encodings.shift_jisx0213 encodings.tis_620",
     "encodings.undefined encodings.unicode_escape encodings.utf_16 encodings.utf_16_be",
     "encodings.utf_16_le encodings.utf_32 encodings.utf_32_be encodings.utf_32_le encodings.utf_7",
     "encodings.utf_8 encodings.utf_8_sig encodings.uu_codec encodings.zlib_codec",
     "ensurepip.__main__ ensurepip._uninstall enum errno faulthandler fcntl filecmp fileinput",
     "fnmatch fractions ftplib functools gc genericpath getopt getpass gettext glob graphlib grp",
     "gzip hashlib heapq hmac html.entities html.parser http.client http.cookiejar http.cookies",
     "http.server idlelib.__main__ idlelib.autocomplete idlelib.autocomplete_w idlelib.autoexpand",
     "idlelib.browser idlelib.calltip idlelib.calltip_w idlelib.codecontext idlelib.colorizer",
     "idlelib.config idlelib.config_key idlelib.configdialog idlelib.debugger idlelib.debugger_r",
     "idlelib.debugobj idlelib.debugobj_r idlelib.delegator idlelib.dynoption idlelib.editor",
     "idlelib.filelist idlelib.format idlelib.grep idlelib.help idlelib.help_about idlelib.history",
     "idlelib.hyperparser idlelib.idle idlelib.iomenu idlelib.macosx idlelib.mainmenu",
     "idlelib.multicall idlelib.outwin idlelib.parenmatch idlelib.pathbrowser idlelib.percolator",
     "idlelib.pyparse idlelib.pyshell idlelib.query idlelib.redirector idlelib.replace idlelib.rpc",
     "idlelib.run idlelib.runscript idlelib.scrolledlist idlelib.search idlelib.searchbase",
     "idlelib.searchengine idlelib.sidebar idlelib.squeezer idlelib.stackviewer idlelib.statusbar",
     "idlelib.textview idlelib.tooltip idlelib.tree idlelib.undo idlelib.util idlelib.window",
     "idlelib.zoomheight idlelib.zzdummy imaplib imghdr imp importlib._abc importlib._bootstrap",
     "importlib._bootstrap_external importlib.abc importlib.machinery importlib.metadata._adapters",
     "importlib.metadata._collections importlib.metadata._functools importlib.metadata._itertools",
     "importlib.metadata._meta importlib.metadata._text importlib.readers",
     "importlib.resources._adapters importlib.resources._common importlib.resources._itertools",
     "importlib.resources._legacy importlib.resources.abc importlib.resources.readers",
     "importlib.resources.simple importlib.simple importlib.util inspect io ipaddress itertools",
     "json.decoder json.encoder json.scanner json.tool keyword lib2to3.__main__",
     "lib2to3.btm_matcher lib2to3.btm_utils lib2to3.fixer_base lib2to3.fixer_util",
     "lib2to3.fixes.fix_apply lib2to3.fixes.fix_asserts lib2to3.fixes.fix_basestring",
     "lib2to3.fixes.fix_buffer lib2to3.fixes.fix_dict lib2to3.fixes.fix_except",
     "lib2to3.fixes.fix_exec lib2to3.fixes.fix_execfile lib2to3.fixes.fix_exitfunc",
     "lib2to3.fixes.fix_filter lib2to3.fixes.fix_funcattrs lib2to3.fixes.fix_future",
     "lib2to3.fixes.fix_getcwdu lib2to3.fixes.fix_has_key lib2to3.fixes.fix_idioms",
     "lib2to3.fixes.fix_import lib2to3.fixes.fix_imports lib2to3.fixes.fix_imports2",
     "lib2to3.fixes.fix_input lib2to3.fixes.fix_intern lib2to3.fixes.fix_isinstance",
     "lib2to3.fixes.fix_itertools lib2to3.fixes.fix_itertools_imports lib2to3.fixes.fix_long",
     "lib2to3.fixes.fix_map lib2to3.fixes.fix_metaclass lib2to3.fixes.fix_methodattrs",
     "lib2to3.fixes.fix_ne lib2to3.fixes.fix_next lib2to3.fixes.fix_nonzero",
     "lib2to3.fixes.fix_numliterals lib2to3.fixes.fix_operator lib2to3.fixes.fix_paren",
     "lib2to3.fixes.fix_print lib2to3.fixes.fix_raise lib2to3.fixes.fix_raw_input",
     "lib2to3.fixes.fix_reduce lib2to3.fixes.fix_reload lib2to3.fixes.fix_renames",
     "lib2to3.fixes.fix_repr lib2to3.fixes.fix_set_literal lib2to3.fixes.fix_standarderror",
     "lib2to3.fixes.fix_sys_exc lib2to3.fixes.fix_throw lib2to3.fixes.fix_tuple_params",
     "lib2to3.fixes.fix_types lib2to3.fixes.fix_unicode lib2to3.fixes.fix_urllib",
     "lib2to3.fixes.fix_ws_comma lib2to3.fixes.fix_xrange lib2to3.fixes.fix_xreadlines",
     "lib2to3.fixes.fix_zip lib2to3.main lib2to3.patcomp lib2to3.pgen2.conv lib2to3.pgen2.driver",
     "lib2to3.pgen2.grammar lib2to3.pgen2.literals lib2to3.pgen2.parse lib2to3.pgen2.pgen",
     "lib2to3.pgen2.token lib2to3.pgen2.tokenize lib2to3.pygram lib2to3.pytree lib2to3.refactor",
     "linecache locale logging.config logging.handlers lzma mailbox mailcap marshal math mimetypes",
     "mmap modulefinder multiprocessing.connection multiprocessing.context",
     "multiprocessing.dummy.connection multiprocessing.forkserver multiprocessing.heap",
     "multiprocessing.managers multiprocessing.pool multiprocessing.popen_fork",
     "multiprocessing.popen_forkserver multiprocessing.popen_spawn_posix",
     "multiprocessing.popen_spawn_win32 multiprocessing.process multiprocessing.queues",
     "multiprocessing.reduction multiprocessing.resource_sharer multiprocessing.resource_tracker",
     "multiprocessing.shared_memory multiprocessing.sharedctypes multiprocessing.spawn",
     "multiprocessing.synchronize multiprocessing.util netrc nntplib ntpath nturl2path numbers",
     "opcode operator optparse os ossaudiodev pathlib pdb pickle pickletools pipes pkgutil",
     "platform plistlib poplib posix posixpath pprint profile pstats pty pwd py_compile pyclbr",
     "pydoc pydoc_data.topics pyexpat queue quopri random re._casefix re._compiler re._constants",
     "re._parser readline reprlib resource rlcompleter runpy sched secrets select selectors shelve",
     "shlex shutil signal site smtpd smtplib sndhdr socket socketserver spwd sqlite3.dbapi2",
     "sqlite3.dump sre_compile sre_constants sre_parse ssl stat statistics string stringprep",
     "struct subprocess sunau symtable sys sysconfig syslog tabnanny tarfile telnetlib tempfile",
     "termios textwrap this threading time timeit tkinter.__main__ tkinter.colorchooser",
     "tkinter.commondialog tkinter.constants tkinter.dialog tkinter.dnd tkinter.filedialog",
     "tkinter.font tkinter.messagebox tkinter.scrolledtext tkinter.simpledialog tkinter.tix",
     "tkinter.ttk token tokenize tomllib._parser tomllib._re tomllib._types trace traceback",
     "tracemalloc tty turtle turtledemo.__main__ turtledemo.bytedesign turtledemo.chaos",
     "turtledemo.clock turtledemo.colormixer turtledemo.forest turtledemo.fractalcurves",
     "turtledemo.lindenmayer turtledemo.minimal_hanoi turtledemo.nim turtledemo.paint",
     "turtledemo.peace turtledemo.penrose turtledemo.planet_and_moon turtledemo.rosette",
     "turtledemo.round_dance turtledemo.sorting_animate turtledemo.tree turtledemo.two_canvases",
     "turtledemo.yinyang types typing unicodedata unittest.__main__ unittest._log",
     "unittest.async_case unittest.case unittest.loader unittest.main unittest.mock",
     "unittest.result unittest.runner unittest.signals unittest.suite unittest.util urllib.error",
     "urllib.parse urllib.request urllib.response urllib.robotparser uu uuid venv.__main__",
     "warnings wave weakref webbrowser wsgiref.handlers wsgiref.headers wsgiref.simple_server",
     "wsgiref.types wsgiref.util wsgiref.validate xdrlib xml.dom.NodeFilter xml.dom.domreg",
     "xml.dom.expatbuilder xml.dom.minicompat xml.dom.minidom xml.dom.pulldom xml.dom.xmlbuilder",
     "xml.etree.ElementInclude xml.etree.ElementPath xml.etree.ElementTree xml.etree.cElementTree",
     "xml.parsers.expat xml.sax._exceptions xml.sax.expatreader xml.sax.handler xml.sax.saxutils",
     "xml.sax.xmlreader xmlrpc.client xmlrpc.server xxlimited xxlimited_35 xxsubtype zipapp",
     "zipfile zipimport zlib zoneinfo._common zoneinfo._tzpath zoneinfo._zoneinfo"]

/-- The packages installed beside the host's library. -/
def installedPackages : List String :=
  words <| " ".intercalate
    ["_distutils_hack _distutils_hack.__pycache__ coverage coverage.htmlfiles pip pip.__pycache__",
     "pip._internal pip._internal.__pycache__ pip._internal.cli pip._internal.cli.__pycache__",
     "pip._internal.commands pip._internal.commands.__pycache__ pip._internal.distributions",
     "pip._internal.distributions.__pycache__ pip._internal.index pip._internal.index.__pycache__",
     "pip._internal.locations pip._internal.locations.__pycache__ pip._internal.metadata",
     "pip._internal.metadata.__pycache__ pip._internal.metadata.importlib",
     "pip._internal.metadata.importlib.__pycache__ pip._internal.models",
     "pip._internal.models.__pycache__ pip._internal.network pip._internal.network.__pycache__",
     "pip._internal.operations pip._internal.operations.__pycache__ pip._internal.operations.build",
     "pip._internal.operations.build.__pycache__ pip._internal.operations.install",
     "pip._internal.operations.install.__pycache__ pip._internal.req pip._internal.req.__pycache__",
     "pip._internal.resolution pip._internal.resolution.__pycache__",
     "pip._internal.resolution.legacy pip._internal.resolution.legacy.__pycache__",
     "pip._internal.resolution.resolvelib pip._internal.resolution.resolvelib.__pycache__",
     "pip._internal.utils pip._internal.utils.__pycache__ pip._internal.vcs",
     "pip._internal.vcs.__pycache__ pip._vendor pip._vendor.__pycache__ pip._vendor.cachecontrol",
     "pip._vendor.cachecontrol.__pycache__ pip._vendor.cachecontrol.caches",
     "pip._vendor.cachecontrol.caches.__pycache__ pip._vendor.certifi",
     "pip._vendor.certifi.__pycache__ pip._vendor.distlib pip._vendor.distlib.__pycache__",
     "pip._vendor.distro pip._vendor.distro.__pycache__ pip._vendor.idna",
     "pip._vendor.idna.__pycache__ pip._vendor.msgpack pip._vendor.msgpack.__pycache__",
     "pip._vendor.packaging pip._vendor.packaging.__pycache__ pip._vendor.pkg_resources",
     "pip._vendor.pkg_resources.__pycache__ pip._vendor.platformdirs",
     "pip._vendor.platformdirs.__pycache__ pip._vendor.pygments pip._vendor.pygments.__pycache__",
     "pip._vendor.pygments.filters pip._vendor.pygments.filters.__pycache__",
     "pip._vendor.pygments.formatters pip._vendor.pygments.formatters.__pycache__",
     "pip._vendor.pygments.lexers pip._vendor.pygments.lexers.__pycache__",
     "pip._vendor.pygments.styles pip._vendor.pygments.styles.__pycache__",
     "pip._vendor.pyproject_hooks pip._vendor.pyproject_hooks.__pycache__",
     "pip._vendor.pyproject_hooks._in_process pip._vendor.pyproject_hooks._in_process.__pycache__",
     "pip._vendor.requests pip._vendor.requests.__pycache__ pip._vendor.resolvelib",
     "pip._vendor.resolvelib.__pycache__ pip._vendor.resolvelib.compat",
     "pip._vendor.resolvelib.compat.__pycache__ pip._vendor.rich pip._vendor.rich.__pycache__",
     "pip._vendor.tenacity pip._vendor.tenacity.__pycache__ pip._vendor.tomli",
     "pip._vendor.tomli.__pycache__ pip._vendor.truststore pip._vendor.truststore.__pycache__",
     "pip._vendor.urllib3 pip._vendor.urllib3.__pycache__ pip._vendor.urllib3.contrib",
     "pip._vendor.urllib3.contrib.__pycache__ pip._vendor.urllib3.contrib._securetransport",
     "pip._vendor.urllib3.contrib._securetransport.__pycache__ pip._vendor.urllib3.packages",
     "pip._vendor.urllib3.packages.__pycache__ pip._vendor.urllib3.packages.backports",
     "pip._vendor.urllib3.packages.backports.__pycache__ pip._vendor.urllib3.packages.six",
     "pip._vendor.urllib3.util pip._vendor.urllib3.util.__pycache__ pkg_resources",
     "pkg_resources.__pycache__ pkg_resources._vendor pkg_resources._vendor.__pycache__",
     "pkg_resources._vendor.backports pkg_resources._vendor.backports.__pycache__",
     "pkg_resources._vendor.importlib_resources",
     "pkg_resources._vendor.importlib_resources.__pycache__ pkg_resources._vendor.jaraco",
     "pkg_resources._vendor.jaraco.__pycache__ pkg_resources._vendor.jaraco.functools",
     "pkg_resources._vendor.jaraco.functools.__pycache__ pkg_resources._vendor.jaraco.text",
     "pkg_resources._vendor.jaraco.text.__pycache__ pkg_resources._vendor.more_itertools",
     "pkg_resources._vendor.more_itertools.__pycache__ pkg_resources._vendor.packaging",
     "pkg_resources._vendor.packaging.__pycache__ pkg_resources._vendor.platformdirs",
     "pkg_resources._vendor.platformdirs.__pycache__ pkg_resources.extern",
     "pkg_resources.extern.__pycache__ setuptools setuptools.__pycache__ setuptools._distutils",
     "setuptools._distutils.__pycache__ setuptools._distutils._vendor",
     "setuptools._distutils._vendor.__pycache__ setuptools._distutils._vendor.packaging",
     "setuptools._distutils._vendor.packaging.__pycache__ setuptools._distutils.command",
     "setuptools._distutils.command.__pycache__ setuptools._distutils.compat",
     "setuptools._distutils.compat.__pycache__ setuptools._vendor setuptools._vendor.__pycache__",
     "setuptools._vendor.backports setuptools._vendor.backports.__pycache__",
     "setuptools._vendor.importlib_metadata setuptools._vendor.importlib_metadata.__pycache__",
     "setuptools._vendor.importlib_resources setuptools._vendor.importlib_resources.__pycache__",
     "setuptools._vendor.jaraco setuptools._vendor.jaraco.__pycache__",
     "setuptools._vendor.jaraco.functools setuptools._vendor.jaraco.functools.__pycache__",
     "setuptools._vendor.jaraco.text setuptools._vendor.jaraco.text.__pycache__",
     "setuptools._vendor.more_itertools setuptools._vendor.more_itertools.__pycache__",
     "setuptools._vendor.packaging setuptools._vendor.packaging.__pycache__",
     "setuptools._vendor.tomli setuptools._vendor.tomli.__pycache__ setuptools._vendor.wheel",
     "setuptools._vendor.wheel.__pycache__ setuptools.command setuptools.command.__pycache__",
     "setuptools.compat setuptools.compat.__pycache__ setuptools.config",
     "setuptools.config.__pycache__ setuptools.config._validate_pyproject",
     "setuptools.config._validate_pyproject.__pycache__ setuptools.extern",
     "setuptools.extern.__pycache__"]

/-- The plain modules of the packages installed beside the host's library. -/
def installedModules : List String :=
  words <| " ".intercalate
    ["_distutils_hack.override coverage.__main__ coverage.annotate coverage.bytecode",
     "coverage.cmdline coverage.collector coverage.config coverage.context coverage.control",
     "coverage.core coverage.data coverage.debug coverage.disposition coverage.env",
     "coverage.exceptions coverage.execfile coverage.files coverage.html coverage.inorout",
     "coverage.jsonreport coverage.lcovreport coverage.misc coverage.multiproc coverage.numbits",
     "coverage.parser coverage.patch coverage.phystokens coverage.plugin coverage.plugin_support",
     "coverage.python coverage.pytracer coverage.regions coverage.report coverage.report_core",
     "coverage.results coverage.sqldata coverage.sqlitedb coverage.sysmon coverage.templite",
     "coverage.tomlconfig coverage.tracer coverage.types coverage.version coverage.xmlreport",
     "pip.__main__ pip.__pip-runner__ pip._internal.build_env pip._internal.cache",
     "pip._internal.cli.autocompletion pip._internal.cli.base_command pip._internal.cli.cmdoptions",
     "pip._internal.cli.command_context pip._internal.cli.index_command pip._internal.cli.main",
     "pip._internal.cli.main_parser pip._internal.cli.parser pip._internal.cli.progress_bars",
     "pip._internal.cli.req_command pip._internal.cli.spinners pip._internal.cli.status_codes",
     "pip._internal.commands.cache pip._internal.commands.check pip._internal.commands.completion",
     "pip._internal.commands.configuration pip._internal.commands.debug",
     "pip._internal.commands.download pip._internal.commands.freeze pip._internal.commands.hash",
     "pip._internal.commands.help pip._internal.commands.index pip._internal.commands.inspect",
     "pip._internal.commands.install pip._internal.commands.list pip._internal.commands.search",
     "pip._internal.commands.show pip._internal.commands.uninstall pip._internal.commands.wheel",
     "pip._internal.configuration pip._internal.distributions.base",
     "pip._internal.distributions.installed pip._internal.distributions.sdist",
     "pip._internal.distributions.wheel pip._internal.exceptions pip._internal.index.collector",
     "pip._internal.index.package_finder pip._internal.index.sources",
     "pip._internal.locations._distutils pip._internal.locations._sysconfig",
     "pip._internal.locations.base pip._internal.main pip._internal.metadata._json",
     "pip._internal.metadata.base pip._internal.metadata.importlib._compat",
     "pip._internal.metadata.importlib._dists pip._internal.metadata.importlib._envs",
     "pip._internal.metadata.pkg_resources pip._internal.models.candidate",
     "pip._internal.models.direct_url pip._internal.models.format_control",
     "pip._internal.models.index pip._internal.models.installation_report",
     "pip._internal.models.link pip._internal.models.scheme pip._internal.models.search_scope",
     "pip._internal.models.selection_prefs pip._internal.models.target_python",
     "pip._internal.models.wheel pip._internal.network.auth pip._internal.network.cache",
     "pip._internal.network.download pip._internal.network.lazy_wheel",
     "pip._internal.network.session pip._internal.network.utils pip._internal.network.xmlrpc",
     "pip._internal.operations.build.build_tracker pip._internal.operations.build.metadata",
     "pip._internal.operations.build.metadata_editable",
     "pip._internal.operations.build.metadata_legacy pip._internal.operations.build.wheel",
     "pip._internal.operations.build.wheel_editable pip._internal.operations.build.wheel_legacy",
     "pip._internal.operations.check pip._internal.operations.freeze",
     "pip._internal.operations.install.editable_legacy pip._internal.operations.install.wheel",
     "pip._internal.operations.prepare pip._internal.pyproject pip._internal.req.constructors",
     "pip._internal.req.req_file pip._internal.req.req_install pip._internal.req.req_set",
     "pip._internal.req.req_uninstall pip._internal.resolution.base",
     "pip._internal.resolution.legacy.resolver pip._internal.resolution.resolvelib.base",
     "pip._internal.resolution.resolvelib.candidates pip._internal.resolution.resolvelib.factory",
     "pip._internal.resolution.resolvelib.found_candidates",
     "pip._internal.resolution.resolvelib.provider pip._internal.resolution.resolvelib.reporter",
     "pip._internal.resolution.resolvelib.requirements",
     "pip._internal.resolution.resolvelib.resolver pip._internal.self_outdated_check",
     "pip._internal.utils._jaraco_text pip._internal.utils._log pip._internal.utils.appdirs",
     "pip._internal.utils.compat pip._internal.utils.compatibility_tags",
     "pip._internal.utils.datetime pip._internal.utils.deprecation",
     "pip._internal.utils.direct_url_helpers pip._internal.utils.egg_link",
     "pip._internal.utils.encoding pip._internal.utils.entrypoints pip._internal.utils.filesystem",
     "pip._internal.utils.filetypes pip._internal.utils.glibc pip._internal.utils.hashes",
     "pip._internal.utils.logging pip._internal.utils.misc pip._internal.utils.packaging",
     "pip._internal.utils.setuptools_build pip._internal.utils.subprocess",
     "pip._internal.utils.temp_dir pip._internal.utils.unpacking pip._internal.utils.urls",
     "pip._internal.utils.virtualenv pip._internal.utils.wheel pip._internal.vcs.bazaar",
     "pip._internal.vcs.git pip._internal.vcs.mercurial pip._internal.vcs.subversion",
     "pip._internal.vcs.versioncontrol pip._internal.wheel_builder pip._vendor.cachecontrol._cmd",
     "pip._vendor.cachecontrol.adapter pip._vendor.cachecontrol.cache",
     "pip._vendor.cachecontrol.caches.file_cache pip._vendor.cachecontrol.caches.redis_cache",
     "pip._vendor.cachecontrol.controller pip._vendor.cachecontrol.filewrapper",
     "pip._vendor.cachecontrol.heuristics pip._vendor.cachecontrol.serialize",
     "pip._vendor.cachecontrol.wrapper pip._vendor.certifi.__main__ pip._vendor.certifi.core",
     "pip._vendor.distlib.compat pip._vendor.distlib.database pip._vendor.distlib.index",
     "pip._vendor.distlib.locators pip._vendor.distlib.manifest pip._vendor.distlib.markers",
     "pip._vendor.distlib.metadata pip._vendor.distlib.resources pip._vendor.distlib.scripts",
     "pip._vendor.distlib.util pip._vendor.distlib.version pip._vendor.distlib.wheel",
     "pip._vendor.distro.__main__ pip._vendor.distro.distro pip._vendor.idna.codec",
     "pip._vendor.idna.compat pip._vendor.idna.core pip._vendor.idna.idnadata",
     "pip._vendor.idna.intranges pip._vendor.idna.package_data pip._vendor.idna.uts46data",
     "pip._vendor.msgpack.exceptions pip._vendor.msgpack.ext pip._vendor.msgpack.fallback",
     "pip._vendor.packaging._elffile pip._vendor.packaging._manylinux",
     "pip._vendor.packaging._musllinux pip._vendor.packaging._parser",
     "pip._vendor.packaging._structures pip._vendor.packaging._tokenizer",
     "pip._vendor.packaging.markers pip._vendor.packaging.metadata",
     "pip._vendor.packaging.requirements pip._vendor.packaging.specifiers",
     "pip._vendor.packaging.tags pip._vendor.packaging.utils pip._vendor.packaging.version",
     "pip._vendor.platformdirs.__main__ pip._vendor.platformdirs.android",
     "pip._vendor.platformdirs.api pip._vendor.platformdirs.macos pip._vendor.platformdirs.unix",
     "pip._vendor.platformdirs.version pip._vendor.platformdirs.windows",
     "pip._vendor.pygments.__main__ pip._vendor.pygments.cmdline pip._vendor.pygments.console",
     "pip._vendor.pygments.filter pip._vendor.pygments.formatter",
     "pip._vendor.pygments.formatters._mapping pip._vendor.pygments.formatters.bbcode",
     "pip._vendor.pygments.formatters.groff pip._vendor.pygments.formatters.html",
     "pip._vendor.pygments.formatters.img pip._vendor.pygments.formatters.irc",
     "pip._vendor.pygments.formatters.latex pip._vendor.pygments.formatters.other",
     "pip._vendor.pygments.formatters.pangomarkup pip._vendor.pygments.formatters.rtf",
     "pip._vendor.pygments.formatters.svg pip._vendor.pygments.formatters.terminal",
     "pip._vendor.pygments.formatters.terminal256 pip._vendor.pygments.lexer",
     "pip._vendor.pygments.lexers._mapping pip._vendor.pygments.lexers.python",
     "pip._vendor.pygments.modeline pip._vendor.pygments.plugin pip._vendor.pygments.regexopt",
     "pip._vendor.pygments.scanner pip._vendor.pygments.sphinxext pip._vendor.pygments.style",
     "pip._vendor.pygments.styles._mapping pip._vendor.pygments.token",
     "pip._vendor.pygments.unistring pip._vendor.pygments.util pip._vendor.pyproject_hooks._compat",
     "pip._vendor.pyproject_hooks._impl pip._vendor.pyproject_hooks._in_process._in_process",
     "pip._vendor.requests.__version__ pip._vendor.requests._internal_utils",
     "pip._vendor.requests.adapters pip._vendor.requests.api pip._vendor.requests.auth",
     "pip._vendor.requests.certs pip._vendor.requests.compat pip._vendor.requests.cookies",
     "pip._vendor.requests.exceptions pip._vendor.requests.help pip._vendor.requests.hooks",
     "pip._vendor.requests.models pip._vendor.requests.packages pip._vendor.requests.sessions",
     "pip._vendor.requests.status_codes pip._vendor.requests.structures pip._vendor.requests.utils",
     "pip._vendor.resolvelib.compat.collections_abc pip._vendor.resolvelib.providers",
     "pip._vendor.resolvelib.reporters pip._vendor.resolvelib.resolvers",
     "pip._vendor.resolvelib.structs pip._vendor.rich.__main__ pip._vendor.rich._cell_widths",
     "pip._vendor.rich._emoji_codes pip._vendor.rich._emoji_replace",
     "pip._vendor.rich._export_format pip._vendor.rich._extension pip._vendor.rich._fileno",
     "pip._vendor.rich._inspect pip._vendor.rich._log_render pip._vendor.rich._loop",
     "pip._vendor.rich._null_file pip._vendor.rich._palettes pip._vendor.rich._pick",
     "pip._vendor.rich._ratio pip._vendor.rich._spinners pip._vendor.rich._stack",
     "pip._vendor.rich._timer pip._vendor.rich._win32_console pip._vendor.rich._windows",
     "pip._vendor.rich._windows_renderer pip._vendor.rich._wrap pip._vendor.rich.abc",
     "pip._vendor.rich.align pip._vendor.rich.ansi pip._vendor.rich.bar pip._vendor.rich.box",
     "pip._vendor.rich.cells pip._vendor.rich.color pip._vendor.rich.color_triplet",
     "pip._vendor.rich.columns pip._vendor.rich.console pip._vendor.rich.constrain",
     "pip._vendor.rich.containers pip._vendor.rich.control pip._vendor.rich.default_styles",
     "pip._vendor.rich.diagnose pip._vendor.rich.emoji pip._vendor.rich.errors",
     "pip._vendor.rich.file_proxy pip._vendor.rich.filesize pip._vendor.rich.highlighter",
     "pip._vendor.rich.json pip._vendor.rich.jupyter pip._vendor.rich.layout pip._vendor.rich.live",
     "pip._vendor.rich.live_render pip._vendor.rich.logging pip._vendor.rich.markup",
     "pip._vendor.rich.measure pip._vendor.rich.padding pip._vendor.rich.pager",
     "pip._vendor.rich.palette pip._vendor.rich.panel pip._vendor.rich.pretty",
     "pip._vendor.rich.progress pip._vendor.rich.progress_bar pip._vendor.rich.prompt",
     "pip._vendor.rich.protocol pip._vendor.rich.region pip._vendor.rich.repr",
     "pip._vendor.rich.rule pip._vendor.rich.scope pip._vendor.rich.screen",
     "pip._vendor.rich.segment pip._vendor.rich.spinner pip._vendor.rich.status",
     "pip._vendor.rich.style pip._vendor.rich.styled pip._vendor.rich.syntax",
     "pip._vendor.rich.table pip._vendor.rich.terminal_theme pip._vendor.rich.text",
     "pip._vendor.rich.theme pip._vendor.rich.themes pip._vendor.rich.traceback",
     "pip._vendor.rich.tree pip._vendor.tenacity._asyncio pip._vendor.tenacity._utils",
     "pip._vendor.tenacity.after pip._vendor.tenacity.before pip._vendor.tenacity.before_sleep",
     "pip._vendor.tenacity.nap pip._vendor.tenacity.retry pip._vendor.tenacity.stop",
     "pip._vendor.tenacity.tornadoweb pip._vendor.tenacity.wait pip._vendor.tomli._parser",
     "pip._vendor.tomli._re pip._vendor.tomli._types pip._vendor.truststore._api",
     "pip._vendor.truststore._macos pip._vendor.truststore._openssl",
     "pip._vendor.truststore._ssl_constants pip._vendor.truststore._windows",
     "pip._vendor.typing_extensions pip._vendor.urllib3._collections pip._vendor.urllib3._version",
     "pip._vendor.urllib3.connection pip._vendor.urllib3.connectionpool",
     "pip._vendor.urllib3.contrib._appengine_environ",
     "pip._vendor.urllib3.contrib._securetransport.bindings",
     "pip._vendor.urllib3.contrib._securetransport.low_level pip._vendor.urllib3.contrib.appengine",
     "pip._vendor.urllib3.contrib.ntlmpool pip._vendor.urllib3.contrib.pyopenssl",
     "pip._vendor.urllib3.contrib.securetransport pip._vendor.urllib3.contrib.socks",
     "pip._vendor.urllib3.exceptions pip._vendor.urllib3.fields pip._vendor.urllib3.filepost",
     "pip._vendor.urllib3.packages.backports.makefile",
     "pip._vendor.urllib3.packages.backports.weakref_finalize pip._vendor.urllib3.poolmanager",
     "pip._vendor.urllib3.request pip._vendor.urllib3.response pip._vendor.urllib3.util.connection",
     "pip._vendor.urllib3.util.proxy pip._vendor.urllib3.util.queue",
     "pip._vendor.urllib3.util.request pip._vendor.urllib3.util.response",
     "pip._vendor.urllib3.util.retry pip._vendor.urllib3.util.ssl_",
     "pip._vendor.urllib3.util.ssl_match_hostname pip._vendor.urllib3.util.ssltransport",
     "pip._vendor.urllib3.util.timeout pip._vendor.urllib3.util.url pip._vendor.urllib3.util.wait",
     "pkg_resources._vendor.backports.tarfile pkg_resources._vendor.importlib_resources._adapters",
     "pkg_resources._vendor.importlib_resources._common",
     "pkg_resources._vendor.importlib_resources._compat",
     "pkg_resources._vendor.importlib_resources._itertools",
     "pkg_resources._vendor.importlib_resources._legacy",
     "pkg_resources._vendor.importlib_resources.abc",
     "pkg_resources._vendor.importlib_resources.readers",
     "pkg_resources._vendor.importlib_resources.simple pkg_resources._vendor.jaraco.context",
     "pkg_resources._vendor.more_itertools.more pkg_resources._vendor.more_itertools.recipes",
     "pkg_resources._vendor.packaging._elffile pkg_resources._vendor.packaging._manylinux",
     "pkg_resources._vendor.packaging._musllinux pkg_resources._vendor.packaging._parser",
     "pkg_resources._vendor.packaging._structures pkg_resources._vendor.packaging._tokenizer",
     "pkg_resources._vendor.packaging.markers pkg_resources._vendor.packaging.metadata",
     "pkg_resources._vendor.packaging.requirements pkg_resources._vendor.packaging.specifiers",
     "pkg_resources._vendor.packaging.tags pkg_resources._vendor.packaging.utils",
     "pkg_resources._vendor.packaging.version pkg_resources._vendor.platformdirs.__main__",
     "pkg_resources._vendor.platformdirs.android pkg_resources._vendor.platformdirs.api",
     "pkg_resources._vendor.platformdirs.macos pkg_resources._vendor.platformdirs.unix",
     "pkg_resources._vendor.platformdirs.version pkg_resources._vendor.platformdirs.windows",
     "pkg_resources._vendor.zipp setuptools._core_metadata setuptools._distutils._collections",
     "setuptools._distutils._functools setuptools._distutils._itertools setuptools._distutils._log",
     "setuptools._distutils._macos_compat setuptools._distutils._modified",
     "setuptools._distutils._msvccompiler setuptools._distutils._vendor.packaging._elffile",
     "setuptools._distutils._vendor.packaging._manylinux",
     "setuptools._distutils._vendor.packaging._musllinux",
     "setuptools._distutils._vendor.packaging._parser",
     "setuptools._distutils._vendor.packaging._structures",
     "setuptools._distutils._vendor.packaging._tokenizer",
     "setuptools._distutils._vendor.packaging.markers",
     "setuptools._distutils._vendor.packaging.metadata",
     "setuptools._distutils._vendor.packaging.requirements",
     "setuptools._distutils._vendor.packaging.specifiers",
     "setuptools._distutils._vendor.packaging.tags setuptools._distutils._vendor.packaging.utils",
     "setuptools._distutils._vendor.packaging.version setuptools._distutils.archive_util",
     "setuptools._distutils.bcppcompiler setuptools._distutils.ccompiler setuptools._distutils.cmd",
     "setuptools._distutils.command._framework_compat setuptools._distutils.command.bdist",
     "setuptools._distutils.command.bdist_dumb setuptools._distutils.command.bdist_rpm",
     "setuptools._distutils.command.build setuptools._distutils.command.build_clib",
     "setuptools._distutils.command.build_ext setuptools._distutils.command.build_py",
     "setuptools._distutils.command.build_scripts setuptools._distutils.command.check",
     "setuptools._distutils.command.clean setuptools._distutils.command.config",
     "setuptools._distutils.command.install setuptools._distutils.command.install_data",
     "setuptools._distutils.command.install_egg_info setuptools._distutils.command.install_headers",
     "setuptools._distutils.command.install_lib setuptools._distutils.command.install_scripts",
     "setuptools._distutils.command.register setuptools._distutils.command.sdist",
     "setuptools._distutils.command.upload setuptools._distutils.compat.py38",
     "setuptools._distutils.compat.py39 setuptools._distutils.config setuptools._distutils.core",
     "setuptools._distutils.cygwinccompiler setuptools._distutils.debug",
     "setuptools._distutils.dep_util setuptools._distutils.dir_util setuptools._distutils.dist",
     "setuptools._distutils.errors setuptools._distutils.extension",
     "setuptools._distutils.fancy_getopt setuptools._distutils.file_util",
     "setuptools._distutils.filelist setuptools._distutils.log setuptools._distutils.msvc9compiler",
     "setuptools._distutils.msvccompiler setuptools._distutils.spawn",
     "setuptools._distutils.sysconfig setuptools._distutils.text_file",
     "setuptools._distutils.unixccompiler setuptools._distutils.util setuptools._distutils.version",
     "setuptools._distutils.versionpredicate setuptools._distutils.zosccompiler",
     "setuptools._entry_points setuptools._imp setuptools._importlib setuptools._itertools",
     "setuptools._normalization setuptools._path setuptools._reqs",
     "setuptools._vendor.backports.tarfile setuptools._vendor.importlib_metadata._adapters",
     "setuptools._vendor.importlib_metadata._collections",
     "setuptools._vendor.importlib_metadata._compat",
     "setuptools._vendor.importlib_metadata._functools",
     "setuptools._vendor.importlib_metadata._itertools setuptools._vendor.importlib_metadata._meta",
     "setuptools._vendor.importlib_metadata._py39compat",
     "setuptools._vendor.importlib_metadata._text setuptools._vendor.importlib_resources._adapters",
     "setuptools._vendor.importlib_resources._common",
     "setuptools._vendor.importlib_resources._compat",
     "setuptools._vendor.importlib_resources._itertools",
     "setuptools._vendor.importlib_resources._legacy setuptools._vendor.importlib_resources.abc",
     "setuptools._vendor.importlib_resources.readers setuptools._vendor.importlib_resources.simple",
     "setuptools._vendor.jaraco.context setuptools._vendor.more_itertools.more",
     "setuptools._vendor.more_itertools.recipes setuptools._vendor.ordered_set",
     "setuptools._vendor.packaging._elffile setuptools._vendor.packaging._manylinux",
     "setuptools._vendor.packaging._musllinux setuptools._vendor.packaging._parser",
     "setuptools._vendor.packaging._structures setuptools._vendor.packaging._tokenizer",
     "setuptools._vendor.packaging.markers setuptools._vendor.packaging.metadata",
     "setuptools._vendor.packaging.requirements setuptools._vendor.packaging.specifiers",
     "setuptools._vendor.packaging.tags setuptools._vendor.packaging.utils",
     "setuptools._vendor.packaging.version setuptools._vendor.tomli._parser",
     "setuptools._vendor.tomli._re setuptools._vendor.tomli._types",
     "setuptools._vendor.wheel.macosx_libfile setuptools._vendor.wheel.metadata",
     "setuptools._vendor.wheel.util setuptools._vendor.wheel.wheelfile setuptools._vendor.zipp",
     "setuptools.archive_util setuptools.build_meta setuptools.command._requirestxt",
     "setuptools.command.alias setuptools.command.bdist_egg setuptools.command.bdist_rpm",
     "setuptools.command.bdist_wheel setuptools.command.build setuptools.command.build_clib",
     "setuptools.command.build_ext setuptools.command.build_py setuptools.command.develop",
     "setuptools.command.dist_info setuptools.command.easy_install",
     "setuptools.command.editable_wheel setuptools.command.egg_info setuptools.command.install",
     "setuptools.command.install_egg_info setuptools.command.install_lib",
     "setuptools.command.install_scripts setuptools.command.register setuptools.command.rotate",
     "setuptools.command.saveopts setuptools.command.sdist setuptools.command.setopt",
     "setuptools.command.test setuptools.command.upload setuptools.command.upload_docs",
     "setuptools.compat.py310 setuptools.compat.py311 setuptools.compat.py39",
     "setuptools.config._apply_pyprojecttoml setuptools.config._validate_pyproject.error_reporting",
     "setuptools.config._validate_pyproject.extra_validations",
     "setuptools.config._validate_pyproject.fastjsonschema_exceptions",
     "setuptools.config._validate_pyproject.fastjsonschema_validations",
     "setuptools.config._validate_pyproject.formats setuptools.config.expand",
     "setuptools.config.pyprojecttoml setuptools.config.setupcfg setuptools.depends",
     "setuptools.discovery setuptools.dist setuptools.errors setuptools.extension setuptools.glob",
     "setuptools.installer setuptools.launch setuptools.logging setuptools.modified",
     "setuptools.monkey setuptools.msvc setuptools.namespaces setuptools.package_index",
     "setuptools.sandbox setuptools.unicode_utils setuptools.version setuptools.warnings",
     "setuptools.wheel setuptools.windows_support"]

/-- The failure of starting the host's windowing toolkit, whose library files it cannot find. -/
def tclMissing : String :=
  "TclError: Can't find a usable init.tcl in the following directories: \n    " ++
    "/tools/deps/lib/tcl8.6 /usr/local/lib/tcl8.6 /usr/lib/tcl8.6 /usr/local/library " ++
    "/usr/library /usr/tcl8.6.12/library /tcl8.6.12/library\n\n\n\n" ++
    "This probably means that Tcl wasn't installed properly.\n"

/-- Modules that the tables list but whose loading fails on the host, each with its failure. -/
def failingModules : List (String × String) :=
  [("asyncio.windows_events", "ImportError: win32 only"),
   ("asyncio.windows_utils", "ImportError: win32 only"),
   ("coverage.__main__", "SystemExit: 0"),
   ("dbm.gnu", "ModuleNotFoundError: No module named '_gdbm'"),
   ("distutils.msvc9compiler", "ModuleNotFoundError: No module named 'winreg'"),
   ("encodings.mbcs",
    "ImportError: cannot import name 'mbcs_encode' from 'codecs' " ++
      "(/app/python311/lib/python3.11/codecs.py)"),
   ("encodings.oem",
    "ImportError: cannot import name 'oem_encode' from 'codecs' " ++
      "(/app/python311/lib/python3.11/codecs.py)"),
   ("idlelib.__main__", tclMissing),
   ("idlelib.browser", tclMissing),
   ("idlelib.idle", tclMissing),
   ("idlelib.pathbrowser", tclMissing),
   ("idlelib.pyshell", tclMissing),
   ("idlelib.run", tclMissing),
   ("idlelib.runscript", tclMissing),
   ("lib2to3.__main__", "SystemExit: 2"),
   ("lib2to3.pgen2.conv", "ModuleNotFoundError: No module named 'pgen2'"),
   ("multiprocessing.popen_spawn_win32", "ModuleNotFoundError: No module named 'msvcrt'"),
   ("pip.__pip-runner__", "AssertionError: Cannot run __pip-runner__.py as a non-main module"),
   ("pip._vendor.pygments.__main__",
    "ModuleNotFoundError: No module named 'pip._vendor.pygments.lexers.special'"),
   ("pip._vendor.pygments.cmdline",
    "ModuleNotFoundError: No module named 'pip._vendor.pygments.lexers.special'"),
   ("pip._vendor.pygments.sphinxext", "ModuleNotFoundError: No module named 'docutils'"),
   ("pip._vendor.rich.__main__",
    "ModuleNotFoundError: No module named 'pip._vendor.rich.markdown'"),
   ("pip._vendor.rich._win32_console",
    "ImportError: pip._vendor.rich._win32_console can only be imported on Windows"),
   ("pip._vendor.rich._windows_renderer",
    "ImportError: pip._vendor.rich._win32_console can only be imported on Windows"),
   ("pip._vendor.tenacity.tornadoweb", "ModuleNotFoundError: No module named 'tornado'"),
   ("pip._vendor.truststore._macos", "ValueError: invalid literal for int() with base 10: ''"),
   ("pip._vendor.truststore._windows",
    "ImportError: cannot import name 'WinDLL' from 'ctypes' " ++
      "(/app/python311/lib/python3.11/ctypes/__init__.py)"),
   ("pip._vendor.urllib3.contrib._securetransport.bindings",
    "ImportError: Only macOS is supported"),
   ("pip._vendor.urllib3.contrib._securetransport.low_level",
    "ImportError: Only macOS is supported"),
   ("pip._vendor.urllib3.contrib.ntlmpool", "ModuleNotFoundError: No module named 'ntlm'"),
   ("pip._vendor.urllib3.contrib.pyopenssl", "ModuleNotFoundError: No module named 'OpenSSL'"),
   ("pip._vendor.urllib3.contrib.securetransport", "ImportError: Only macOS is supported"),
   ("pip._vendor.urllib3.contrib.socks", "ModuleNotFoundError: No module named 'socks'"),
   ("pkg_resources._vendor.platformdirs.__main__",
    "ModuleNotFoundError: No module named 'platformdirs'"),
   ("setuptools._distutils.msvc9compiler", "ModuleNotFoundError: No module named 'winreg'"),
   ("tkinter.__main__", tclMissing),
   ("unittest.__main__", "SystemExit: False"),
   ("venv.__main__", "SystemExit: 2")]

/-- The host the repository's tools run on. -/
def host : Host where
  packages := libraryPackages ++ installedPackages
  modules := libraryModules ++ installedModules
  failing := failingModules

end Modules

end Monkey
